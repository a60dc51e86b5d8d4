import Mathlib.Algebra.Ring.Nat
import QueryTemplate.Parameter.Conversion
import QueryTemplate.Plain
import QueryTemplate.Proofs.Number.Represented

/-!
# Integers of the types of a program have one representation

An integer is described by the rule of its type (`MachineInt.described?`), and taken at once by another rule of its type
(`NarrowInt.taken`). Both come to the one representation of the integer, and an integer is not described if and only if it has
none (`MachineInt.described?_eq_some_iff`, `NarrowInt.represents_taken`).
-/

namespace QueryTemplate

open Number (Represents)

/-- A natural number of fewer than 64 bits is represented as a signed integer. -/
theorem Number.represents_ofNat {n : Nat} (h : n < 2 ^ 63) : Represents n (.int (Int64.ofNat n)) :=
  represents_int_iff.mpr (Int64.toInt_ofNat_of_lt h).symm

namespace NarrowInt

/-- An integer of at most 64 bits is described as its one representation. -/
theorem represents_described (n : NarrowInt) : Represents n.toInt n.described := by
  cases n with
  | i8 n => exact Number.represents_int_iff.mpr n.toInt_toInt64.symm
  | i16 n => exact Number.represents_int_iff.mpr n.toInt_toInt64.symm
  | i32 n => exact Number.represents_int_iff.mpr n.toInt_toInt64.symm
  | i64 n => exact Number.represents_int_iff.mpr rfl
  | u8 n => exact Number.represents_ofNat (by have := n.toNat_lt; omega)
  | u16 n => exact Number.represents_ofNat (by have := n.toNat_lt; omega)
  | u32 n => exact Number.represents_ofNat (by have := n.toNat_lt; omega)
  | u64 n => exact Number.represents_ofUInt64 n

/-- An integer of at most 64 bits is taken as its one representation. -/
theorem represents_taken (n : NarrowInt) : Represents n.toInt n.taken := by
  cases n with
  | i8 n => exact Number.represents_int_iff.mpr n.toInt_toInt64.symm
  | i16 n => exact Number.represents_int_iff.mpr n.toInt_toInt64.symm
  | i32 n => exact Number.represents_int_iff.mpr n.toInt_toInt64.symm
  | i64 n => exact Number.represents_int_iff.mpr rfl
  | u8 n => exact Number.represents_ofNat (by have := n.toNat_lt; omega)
  | u16 n => exact Number.represents_ofNat (by have := n.toNat_lt; omega)
  | u32 n => exact Number.represents_ofNat (by have := n.toNat_lt; omega)
  | u64 n =>
    rw [toInt, taken]
    cases hn : int64? n.toNat with
    | some m => exact Number.represents_int_iff.mpr (int64?_eq_some_iff.mp hn)
    | none =>
      rw [int64?] at hn
      split at hn
      · cases hn
      · exact Number.represents_uint_iff.mpr ⟨rfl, by omega⟩

end NarrowInt

namespace MachineInt

/-- A signed integer of 128 bits is described in the two steps of the one representation. -/
theorem described?_i128 (n : BitVec 128) : (i128 n).described? = Number.ofInt? n.toInt := by
  cases hn : int64? n.toInt <;> simp only [described?, Number.ofInt?, hn]

/-- An unsigned integer of 128 bits is described as the one of 64 bits that it is. -/
theorem described?_u128_eq_some_iff {n : BitVec 128} {x : Number} :
    (u128 n).described? = some x ↔ Represents n.toNat x := by
  rw [described?, Option.map_eq_some_iff]
  constructor
  · rintro ⟨m, hm, rfl⟩
    rw [uint64?_eq_some_iff.mp hm]
    exact Number.represents_ofUInt64 m
  · intro hx
    have hmax : n.toNat < 2 ^ 64 := by
      by_contra hout
      exact Number.not_represents_of_outside (Or.inr (by omega)) x hx
    have hm : (UInt64.ofNat n.toNat).toNat = n.toNat := UInt64.toNat_ofNat_of_lt hmax
    refine ⟨UInt64.ofNat n.toNat, uint64?_eq_some_iff.mpr (by rw [hm]), ?_⟩
    have hrepresents := Number.represents_ofUInt64 (UInt64.ofNat n.toNat)
    rw [hm] at hrepresents
    exact hrepresents.unique hx

/-- An integer of any type is described as a number if and only if the number is its one representation. -/
theorem described?_eq_some_iff {n : MachineInt} {x : Number} : n.described? = some x ↔ Represents n.toInt x := by
  cases n with
  | narrow n =>
    constructor
    · intro h
      exact Option.some.inj h ▸ n.represents_described
    · exact fun h => congrArg some (n.represents_described.unique h)
  | i128 n => rw [described?_i128, Number.ofInt?_eq_some_iff]; rfl
  | u128 n => exact described?_u128_eq_some_iff

/-- An integer without representation is not described. -/
theorem described?_eq_none {n : MachineInt} (h : n.toInt < -2 ^ 63 ∨ 2 ^ 64 ≤ n.toInt) : n.described? = none :=
  Option.eq_none_iff_forall_ne_some.mpr fun x hx =>
    Number.not_represents_of_outside h x (described?_eq_some_iff.mp hx)

end MachineInt

end QueryTemplate
