/-!
# Rounding

A quotient of natural numbers is rounded to the nearest natural number. If it lies half-way between two of them, that is
a tie, which a rule breaks.
-/

namespace QueryTemplate

/-- How a tie is broken. -/
inductive TieRule where
  /-- The even neighbour is taken. -/
  | toEven
  /-- The greater neighbour is taken. -/
  | upward

/-- Whether a tie above the given number goes to its successor. -/
def TieRule.roundsUp (tie : TieRule) (floor : Nat) : Bool :=
  match tie with
  | .toEven => floor % 2 == 1
  | .upward => true

/-- A quotient rounded to the nearest natural number. -/
def roundQuotient (tie : TieRule) (num den : Nat) : Nat :=
  let floor := num / den
  let twice := 2 * (num % den)
  if den < twice || (den == twice && tie.roundsUp floor) then floor + 1 else floor

/-- A natural number is rounded to itself. -/
theorem roundQuotient_mul (tie : TieRule) (n den : Nat) (h : 0 < den) : roundQuotient tie (n * den) den = n := by
  have h0 : ¬ den = 0 := by omega
  simp [roundQuotient, Nat.mul_div_cancel n h, h0]

end QueryTemplate
