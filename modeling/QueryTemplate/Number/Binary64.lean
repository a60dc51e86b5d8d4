import QueryTemplate.Number.Rounding

/-!
# Floating-point numbers

A binary64 number is its 64 bits: a sign, eleven bits of exponent and 52 of fraction. Everything here is computed on
natural numbers, so two numbers are the same exactly when their bits are, and `equals` is the comparison of numbers,
under which a NaN differs from itself and the two zeros agree.

Without its sign the bit pattern grows with the number, and the next pattern is the next number. Rounding
(`roundedPattern`) therefore computes a pattern as an integer: a carry out of the fraction lands in the exponent by
itself.
-/

namespace QueryTemplate

/-- A floating-point number of 64 bits. -/
structure Binary64 where
  bits : UInt64
deriving DecidableEq

namespace Binary64

/-- The pattern of infinity; larger patterns are those of NaNs. -/
def infinityPattern : Nat := 0x7FF0000000000000

/-- The bits without the sign. -/
def pattern (x : Binary64) : Nat :=
  x.bits.toNat % (1 <<< 63)

/-- Whether the sign bit is set. -/
def isNegative (x : Binary64) : Bool :=
  (1 <<< 63) ≤ x.bits.toNat

/-- The number with the given sign and pattern. -/
def ofPattern (negative : Bool) (pattern : Nat) : Binary64 :=
  ⟨UInt64.ofNat (if negative then pattern + (1 <<< 63) else pattern)⟩

def isNaN (x : Binary64) : Bool :=
  infinityPattern < x.pattern

/-- Neither infinite nor a NaN. -/
def isFinite (x : Binary64) : Bool :=
  x.pattern < infinityPattern

/-- Either of the two zeros. -/
def isZero (x : Binary64) : Bool :=
  x.pattern == 0

/-- Equality of numbers: a NaN equals nothing, the zeros equal each other, and else the bits decide. -/
def equals (x y : Binary64) : Bool :=
  !x.isNaN && !y.isNaN && (x == y || (x.isZero && y.isZero))

/-- The power of two that the significand of a finite number counts. -/
def exponent (x : Binary64) : Int :=
  (max (x.pattern >>> 52) 1 : Nat) - 1075

/-- The significand: a finite number is, up to its sign, `significand * 2 ^ exponent`. -/
def significand (x : Binary64) : Nat :=
  if x.pattern < (1 <<< 52) then x.pattern else (1 <<< 52) + x.pattern % (1 <<< 52)

/-- A natural number times a power of two, as a quotient. -/
def scaled (n : Nat) (e : Int) : Nat × Nat :=
  (n <<< e.toNat, 1 <<< (-e).toNat)

/-- The exponent of the highest power of two that is at most `num / den`, both being positive. -/
def leadingExponent (num den : Nat) : Int :=
  let guess : Int := num.log2 - den.log2
  let power := scaled 1 guess
  if den * power.1 ≤ num * power.2 then guess else guess - 1

/-- The pattern of the number nearest to the positive quotient `num / den`; infinity if that is too large. -/
def roundedPattern (num den : Nat) : Nat :=
  let e := max (leadingExponent num den - 52) (-1074)
  let unit := scaled 1 e
  min ((e + 1074).toNat <<< 52 + roundQuotient .toEven (num * unit.2) (den * unit.1)) infinityPattern

/-- The number nearest to `digits * 10 ^ exponent`. Outside the range of the type the answer is known without computing
the power. -/
def ofDecimal (negative : Bool) (digits : Nat) (exponent : Int) : Binary64 :=
  let magnitude := (Nat.toDigits 10 digits).length + exponent
  ofPattern negative <|
    if digits = 0 ∨ magnitude < -330 then 0
    else if 310 < magnitude then infinityPattern
    else roundedPattern (digits * Nat.pow 10 exponent.toNat) (Nat.pow 10 (-exponent).toNat)

/-- A number of 32 bits, widened. It keeps its value, an infinity stays one and a NaN stays one. -/
def ofBinary32 (bits : UInt32) : Binary64 :=
  let negative : Bool := (1 <<< 31) ≤ bits.toNat
  let pattern := bits.toNat % (1 <<< 31)
  let fraction := pattern % (1 <<< 23)
  ofPattern negative <|
    if pattern = 0 then 0
    else if 0x7F800000 < pattern then infinityPattern + (1 <<< 51)
    else if 0x7F800000 = pattern then infinityPattern
    else
      let significand := if pattern < (1 <<< 23) then pattern else (1 <<< 23) + fraction
      let value := scaled significand ((max (pattern >>> 23) 1 : Nat) - 150)
      roundedPattern value.1 value.2

/-- The integer that a finite number is, if it is one. -/
def toInt? (x : Binary64) : Option Int :=
  let value := scaled x.significand x.exponent
  if x.isFinite && value.1 % value.2 == 0 then
    let magnitude : Int := (value.1 / value.2 : Nat)
    some (if x.isNegative then -magnitude else magnitude)
  else none

/-- The number with the other sign. -/
def neg (x : Binary64) : Binary64 :=
  ofPattern (!x.isNegative) x.pattern

/-- A NaN differs from itself. -/
theorem equals_self (x : Binary64) : x.equals x = !x.isNaN := by
  simp only [equals, beq_self_eq_true, Bool.true_or, Bool.and_true, Bool.and_self]

/-- Comparison does not depend on the order of the two numbers. -/
theorem equals_comm (x y : Binary64) : x.equals y = y.equals x := by
  have h : (x == y) = (y == x) := by
    rw [Bool.eq_iff_iff, beq_iff_eq, beq_iff_eq]
    exact eq_comm
  rw [equals, equals, h, Bool.and_comm (!x.isNaN), Bool.and_comm x.isZero]

/-- The pattern of a number is below that of the sign bit. -/
theorem pattern_lt (x : Binary64) : x.pattern < 1 <<< 63 :=
  Nat.mod_lt _ (by decide)

end Binary64

end QueryTemplate
