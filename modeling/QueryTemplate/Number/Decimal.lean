import QueryTemplate.Number.Binary64
import QueryTemplate.Number.Digits

/-!
# Decimals

A decimal number is a natural number of units, each a power of ten. It is written as digits with an optional point and
an optional exponent (`read?`), and stands for the nearest floating-point number (`Decimal.toBinary64`).
-/

namespace QueryTemplate

/-- The decimal number `digits * 10 ^ exponent`. -/
structure Decimal where
  digits : Nat
  exponent : Int
deriving DecidableEq

namespace Decimal

/-- The exponent that stands after the digits: nothing, or an `e`, an optional sign and digits. -/
def readExponent? : List Char → Option Int
  | [] => some 0
  | e :: s =>
    if e = 'e' ∨ e = 'E' then
      match s with
      | '-' :: digits => (readDigits? 10 digits).map fun n => -(n : Int)
      | '+' :: digits => (readDigits? 10 digits).map fun n => (n : Int)
      | digits => (readDigits? 10 digits).map fun n => (n : Int)
    else none

/-- The decimal that a text writes without a sign: digits with at most one point among them, and an exponent. At least
one digit has to stand before or after the point. -/
def read? (s : List Char) : Option Decimal := do
  let whole := s.takeWhile Char.isDigit
  let afterWhole := s.dropWhile Char.isDigit
  let (fraction, afterDigits) := match afterWhole with
    | '.' :: r => (r.takeWhile Char.isDigit, r.dropWhile Char.isDigit)
    | r => ([], r)
  let digits ← readDigits? 10 (whole ++ fraction)
  let exponent ← readExponent? afterDigits
  return ⟨digits, exponent - fraction.length⟩

/-- The floating-point number nearest to a decimal, with the given sign. -/
def toBinary64 (d : Decimal) (negative : Bool) : Binary64 :=
  .ofDecimal negative d.digits d.exponent

end Decimal

end QueryTemplate
