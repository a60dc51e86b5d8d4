import QueryTemplate.Number.Digits
import QueryTemplate.Text.Reader

/-!
# Characters by number

A character may be written as the digits of its code point. Surrogates and what lies beyond Unicode are no characters.
-/

namespace QueryTemplate

/-- The character whose code point is written in a radix. -/
def charOfDigits? (radix : Nat) (digits : List Char) : Option Char := do
  let n ← readDigits? radix digits
  if n.isValidChar then some (Char.ofNat n) else none

namespace Reader

/-- A character given by exactly `count` hexadecimal digits. -/
def hexChar (count : Nat) : Reader Char :=
  mapOption (exactly isHexDigit count) (charOfDigits? 16)

end Reader

end QueryTemplate
