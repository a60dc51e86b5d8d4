import QueryTemplate.Number.Binary64

/-!
# Numbers

A number is a signed or an unsigned integer of 64 bits or a floating-point number. An integer is a signed one wherever it fits,
and an unsigned one only above the signed range.
-/

namespace QueryTemplate

/-- A number of 64 bits. -/
inductive Number where
  | int (n : Int64)
  | uint (n : UInt64)
  | float (x : Binary64)
deriving DecidableEq

/-! ## Integers of a width -/

/-- The signed integer of 64 bits that an integer is, if it is one. -/
def int64? (n : Int) : Option Int64 :=
  if -0x8000_0000_0000_0000 ≤ n ∧ n < 0x8000_0000_0000_0000 then some (Int64.ofInt n) else none

/-- The unsigned integer of 64 bits that an integer is, if it is one. -/
def uint64? (n : Int) : Option UInt64 :=
  if 0 ≤ n ∧ n < 0x1_0000_0000_0000_0000 then some (UInt64.ofNat n.toNat) else none

/-- An integer, if it is a signed one of 128 bits. -/
def int128? (n : Int) : Option Int :=
  if -0x8000_0000_0000_0000_0000_0000_0000_0000 ≤ n ∧ n < 0x8000_0000_0000_0000_0000_0000_0000_0000 then some n
  else none

/-- A natural number, if it is an unsigned integer of 128 bits. -/
def uint128? (n : Nat) : Option Nat :=
  if n < 0x1_0000_0000_0000_0000_0000_0000_0000_0000 then some n else none

/-! ## Numbers -/

namespace Number

/-- The representation of a natural number of 64 bits. -/
def ofUInt64 (n : UInt64) : Number :=
  if n.toNat ≤ Int64.maxValue.toInt then .int (Int64.ofNat n.toNat) else .uint n

/-- Zero in any of the representations. -/
def isZero : Number → Bool
  | .int n => n == 0
  | .uint n => n == 0
  | .float x => x.isZero

/-- Equality of numbers in one representation; numbers in different representations differ. -/
def equals : Number → Number → Bool
  | .int m, .int n => m == n
  | .uint m, .uint n => m == n
  | .float x, .float y => x.equals y
  | _, _ => false

end Number

end QueryTemplate
