import Mathlib.Algebra.Ring.Int.Defs
import QueryTemplate.Number

/-!
# The one representation of an integer

The signed and the unsigned integers of 64 bits overlap. An integer in both ranges is represented as a signed one
(`Number.Represents`), so that each integer has one representation and each representation stands for one integer. Integers are
narrowed to 64 bits in steps, each of which says whether the integer fits (`int64?_eq_some_iff`, `uint64?_eq_some_iff`).
-/

namespace QueryTemplate

/-! ## Integers of 64 bits -/

/-- An integer that fits the signed integers of 64 bits is the same integer there. -/
theorem int64?_eq_some_iff {n : Int} {m : Int64} : int64? n = some m ↔ n = m.toInt := by
  rw [int64?]
  constructor
  · intro h
    split at h
    · cases h
      exact (Int64.toInt_ofInt_of_le (by omega) (by omega)).symm
    · cases h
  · rintro rfl
    have hmin := m.le_toInt
    have hmax := m.toInt_lt
    rw [if_pos ⟨hmin, hmax⟩, Int64.ofInt_toInt]

/-- An integer that fits the unsigned integers of 64 bits is the same integer there. -/
theorem uint64?_eq_some_iff {n : Int} {m : UInt64} : uint64? n = some m ↔ n = m.toNat := by
  rw [uint64?]
  constructor
  · intro h
    split at h
    · cases h
      rw [UInt64.toNat_ofNat']
      omega
    · cases h
  · rintro rfl
    have hmax := m.toNat_lt
    rw [if_pos (by omega), Int.toNat_natCast, UInt64.ofNat_toNat]

namespace Number

/-! ## The representation -/

/-- The representation of an integer: signed in the range of signed integers of 64 bits, unsigned from there on up to the
end of the range of unsigned ones. -/
inductive Represents (n : Int) : Number → Prop where
  | int (hmin : -2 ^ 63 ≤ n) (hmax : n < 2 ^ 63) : Represents n (.int (Int64.ofInt n))
  | uint (hmin : 2 ^ 63 ≤ n) (hmax : n < 2 ^ 64) : Represents n (.uint (UInt64.ofNat n.toNat))

/-- A signed number represents the integer that it is. -/
theorem represents_int_iff {n : Int} {m : Int64} : Represents n (.int m) ↔ n = m.toInt := by
  rw [← int64?_eq_some_iff, int64?]
  constructor
  · rintro ⟨hmin, hmax⟩
    exact if_pos ⟨hmin, hmax⟩
  · intro h
    split at h
    · rename_i hn
      cases h
      exact .int hn.1 hn.2
    · cases h

/-- An unsigned number represents the integer that it is, if this is not in the signed range. -/
theorem represents_uint_iff {n : Int} {m : UInt64} : Represents n (.uint m) ↔ n = m.toNat ∧ 2 ^ 63 ≤ n := by
  rw [← uint64?_eq_some_iff, uint64?]
  constructor
  · intro h
    cases h with
    | uint hlower hupper => exact ⟨if_pos ⟨by omega, hupper⟩, hlower⟩
  · rintro ⟨h, hlower⟩
    split at h
    · rename_i hn
      cases h
      exact .uint hlower hn.2
    · cases h

/-- No floating-point number represents an integer. -/
theorem not_represents_float {n : Int} {x : Binary64} : ¬Represents n (.float x) :=
  fun h => by cases h

/-- Different integers have different representations. -/
theorem Represents.injective {m n : Int} {x : Number} (hm : Represents m x) (hn : Represents n x) : m = n := by
  cases x with
  | int k => exact (represents_int_iff.mp hm).trans (represents_int_iff.mp hn).symm
  | uint k => exact (represents_uint_iff.mp hm).1.trans (represents_uint_iff.mp hn).1.symm
  | float x => exact absurd hm not_represents_float

/-- An integer has one representation only. -/
theorem Represents.unique {n : Int} {x y : Number} (hx : Represents n x) (hy : Represents n y) : x = y := by
  cases hx <;> cases hy <;> first | rfl | omega

/-- An integer has a representation unless it is out of both ranges. -/
theorem exists_represents (n : Int) : (∃ x, Represents n x) ∨ n < -2 ^ 63 ∨ 2 ^ 64 ≤ n := by
  by_cases hsigned : -2 ^ 63 ≤ n ∧ n < 2 ^ 63
  · exact Or.inl ⟨_, .int hsigned.1 hsigned.2⟩
  by_cases hunsigned : 2 ^ 63 ≤ n ∧ n < 2 ^ 64
  · exact Or.inl ⟨_, .uint hunsigned.1 hunsigned.2⟩
  · exact Or.inr (by omega)

/-- An integer out of both ranges has no representation. -/
theorem not_represents_of_outside {n : Int} (h : n < -2 ^ 63 ∨ 2 ^ 64 ≤ n) (x : Number) : ¬Represents n x := by
  rintro (⟨hmin, hmax⟩ | ⟨hmin, hmax⟩) <;> omega

/-! ## Unsigned integers of 64 bits -/

/-- An unsigned integer is represented as a signed one if it fits, and else as it is. -/
theorem represents_ofUInt64 (n : UInt64) : Represents n.toNat (.ofUInt64 n) := by
  have hmax := Int64.toInt_maxValue
  rw [ofUInt64]
  split
  · rw [represents_int_iff]
    exact (Int64.toInt_ofNat_of_lt (by omega)).symm
  · rw [represents_uint_iff]
    exact ⟨rfl, by omega⟩

/-! ## Narrowing -/

/-- The representation of an integer, in two steps: signed if it fits, else unsigned if it fits. -/
def ofInt? (n : Int) : Option Number :=
  match int64? n with
  | some m => some (.int m)
  | none => (uint64? n).map .uint

/-- In two steps an integer comes to its representation. -/
theorem ofInt?_eq_some_iff {n : Int} {x : Number} : ofInt? n = some x ↔ Represents n x := by
  rw [ofInt?]
  split
  · rename_i m hm
    have hm : Represents n (.int m) := represents_int_iff.mpr (int64?_eq_some_iff.mp hm)
    exact ⟨fun h => Option.some.inj h ▸ hm, fun h => congrArg some (hm.unique h)⟩
  · rename_i hnone
    have hsigned : ¬(-2 ^ 63 ≤ n ∧ n < 2 ^ 63) := fun hn => by
      rw [int64?, if_pos (by omega)] at hnone
      cases hnone
    rw [Option.map_eq_some_iff]
    constructor
    · rintro ⟨m, hm, rfl⟩
      rw [uint64?_eq_some_iff] at hm
      exact represents_uint_iff.mpr ⟨hm, by omega⟩
    · intro h
      cases x with
      | int k => exact absurd (represents_int_iff.mp h ▸ ⟨k.le_toInt, k.toInt_lt⟩) hsigned
      | uint k => exact ⟨k, uint64?_eq_some_iff.mpr (represents_uint_iff.mp h).1, rfl⟩
      | float x => exact absurd h not_represents_float

/-- An integer out of both ranges comes to nothing. -/
theorem ofInt?_eq_none {n : Int} (h : n < -2 ^ 63 ∨ 2 ^ 64 ≤ n) : ofInt? n = none :=
  Option.eq_none_iff_forall_ne_some.mpr fun x hx => not_represents_of_outside h x (ofInt?_eq_some_iff.mp hx)

end Number

end QueryTemplate
