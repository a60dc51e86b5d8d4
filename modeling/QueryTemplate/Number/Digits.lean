/-!
# Digits

The value of a string of digits in a radix.
-/

namespace QueryTemplate

/-- The value of a hexadecimal digit, in either case. -/
def digitValue? (c : Char) : Option Nat :=
  if c.isDigit then some (c.toNat - '0'.toNat)
  else if 'a' ≤ c ∧ c ≤ 'f' then some (c.toNat - 'a'.toNat + 10)
  else if 'A' ≤ c ∧ c ≤ 'F' then some (c.toNat - 'A'.toNat + 10)
  else none

/-- A digit of hexadecimal notation. -/
def isHexDigit (c : Char) : Bool :=
  (digitValue? c).isSome

/-- The value of a digit in a radix. -/
def digitBelow? (radix : Nat) (c : Char) : Option Nat :=
  (digitValue? c).filter (· < radix)

/-- The number that digit values make, the most significant first. -/
def ofDigits (radix : Nat) (digits : List Nat) : Nat :=
  digits.foldl (fun n d => n * radix + d) 0

/-- The number that a text writes in a radix; `none` without digits and if one is not below the radix. -/
def readDigits? (radix : Nat) (s : List Char) : Option Nat :=
  if s.isEmpty then none else (s.mapM (digitBelow? radix)).map (ofDigits radix)

/-- One more digit multiplies the number by the radix. -/
theorem ofDigits_concat (radix : Nat) (digits : List Nat) (d : Nat) :
    ofDigits radix (digits ++ [d]) = ofDigits radix digits * radix + d := by
  simp [ofDigits]

end QueryTemplate
