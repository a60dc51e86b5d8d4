import QueryTemplate.Number.Decimal

/-!
# Shortest decimals

A floating-point number is written with the fewest digits that read back as the same number. The reals that round to a
number form an interval around it. Among the powers of ten, the largest with a multiple in the interval gives the
fewest digits, and of its multiples there the nearest to the number is taken. Two multiples can be equally near, as for
`2 ^ (-25)`; which of them is written is a decision of the layout (`DecimalLayout`).
-/

namespace QueryTemplate

namespace Binary64

/-- The interval of the reals that round to a number, in quarters of the unit of its significand: its lower end, the
number itself and its upper end. Below a power of two the numbers lie twice as dense. -/
def roundingInterval (x : Binary64) : Nat × Nat × Nat :=
  let quarters := 4 * x.significand
  let below := if x.significand = 1 <<< 52 ∧ -1074 < x.exponent then 1 else 2
  (quarters - below, quarters, quarters + 2)

/-- The multiple of `10 ^ k` that is nearest to a positive number, among those in the number's rounding interval. The
ends belong to the interval when the significand is even. -/
def nearestMultiple? (tie : TieRule) (x : Binary64) (k : Int) : Option Nat :=
  let unit := scaled 1 (x.exponent - 2)
  let step := unit.2 * Nat.pow 10 k.toNat
  let measure := unit.1 * Nat.pow 10 (-k).toNat
  let (low, number, high) := x.roundingInterval
  let inside (n : Nat) : Bool :=
    if x.significand % 2 = 0 then low * measure ≤ n * step && n * step ≤ high * measure
    else low * measure < n * step && n * step < high * measure
  let nearest := roundQuotient tie (number * measure) step
  let floor := number * measure / step
  if inside nearest then some nearest
  else if inside floor then some floor
  else if inside (floor + 1) then some (floor + 1)
  else none

/-- The shortest decimal of a positive finite number. Every such number is below `10 ^ 309`, and its interval holds a
multiple of `10 ^ (-324)`. -/
def shortest (tie : TieRule) (x : Binary64) : Decimal :=
  let candidates := (List.range 634).findSome? fun (i : Nat) =>
    (x.nearestMultiple? tie (309 - i)).map fun n => (⟨n, 309 - i⟩ : Decimal)
  candidates.getD ⟨0, 0⟩

end Binary64

/-- How numbers are written. A decimal has its point in place, instead of an exponent, if the count of its digits before
the point lies between two bounds; zeros right after the point count negatively. -/
structure DecimalLayout where
  leastPoint : Int
  mostPoint : Int
  /-- Which of two equally near shortest decimals is written. -/
  tie : TieRule
  /-- Whether an exponent that is not negative has a plus sign. -/
  plusSign : Bool

namespace DecimalLayout

/-- How many digits stand before the point. -/
def point (d : Decimal) : Int :=
  (Nat.toDigits 10 d.digits).length + d.exponent

/-- A decimal with its point in place; there is a digit on both sides of it. -/
def positional (d : Decimal) : List Char :=
  let ds := Nat.toDigits 10 d.digits
  let before := (point d).toNat
  if point d ≤ 0 then ['0', '.'] ++ List.replicate (-point d).toNat '0' ++ ds
  else if ds.length ≤ before then ds ++ List.replicate (before - ds.length) '0' ++ ['.', '0']
  else ds.take before ++ '.' :: ds.drop before

/-- A decimal with one digit before the point and an exponent of ten after `e`. -/
def scientific (layout : DecimalLayout) (d : Decimal) : List Char :=
  let ds := Nat.toDigits 10 d.digits
  let mantissa := if ds.length ≤ 1 then ds else ds.take 1 ++ '.' :: ds.drop 1
  let exponent := point d - 1
  let sign := if layout.plusSign && 0 ≤ exponent then ['+'] else []
  mantissa ++ 'e' :: sign ++ (toString exponent).toList

/-- The text of a number, with the shortest digits. -/
def text (layout : DecimalLayout) (x : Binary64) : String :=
  if x.isNaN then "NaN"
  else
    let d := x.shortest layout.tie
    let magnitude :=
      if !x.isFinite then ['i', 'n', 'f']
      else if x.isZero then ['0', '.', '0']
      else if layout.leastPoint ≤ point d ∧ point d ≤ layout.mostPoint then positional d
      else layout.scientific d
    String.ofList (if x.isNegative then '-' :: magnitude else magnitude)

end DecimalLayout

end QueryTemplate
