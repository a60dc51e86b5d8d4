import Mathlib.Data.List.Forall2
import Mathlib.Data.List.Induction
import Mathlib.Data.Nat.Digits.Defs
import Mathlib.Tactic.IntervalCases
import QueryTemplate.Number.Digits

/-!
# Numerals

The number that a text of digits writes, said by places: each digit has a value below the radix, and it counts the power of
the radix that belongs to its place (`Numeral`). Reading the digits from left to right comes to the same number
(`readDigits?_eq_some_iff`).
-/

namespace QueryTemplate

/-- A digit has a value. After the decimal digits come the letters, in either case. -/
def IsDigit (c : Char) (d : Nat) : Prop :=
  "0123456789abcdef".toList[d]? = some c ∨ "0123456789ABCDEF".toList[d]? = some c

/-- A text writes a number in a radix: it is not empty, its digits are below the radix, and the last digit counts ones. -/
def Numeral (radix : Nat) (s : List Char) (n : Nat) : Prop :=
  s ≠ [] ∧ ∃ ds, List.Forall₂ IsDigit s ds ∧ (∀ d ∈ ds, d < radix) ∧ Nat.ofDigits radix ds.reverse = n

/-! ## Digits -/

theorem digitValue?_of_isDigit {c : Char} {d : Nat} (h : IsDigit c d) : digitValue? c = some d := by
  have hd : d < 16 := by
    rcases h with h | h <;> exact (List.getElem?_eq_some_iff.mp h).1
  interval_cases d <;> rcases h with h | h <;> cases h <;> rfl

/-- Only ASCII characters have a value as digits, and it is below sixteen. -/
theorem lt_of_digitValue? {c : Char} {d : Nat} (h : digitValue? c = some d) : c.toNat < 128 ∧ d < 16 := by
  have hle : ∀ {a b : Char}, a ≤ b → a.toNat ≤ b.toNat := fun h => UInt32.le_iff_toNat_le.mp h
  rw [digitValue?] at h
  split at h
  · rename_i hdigit
    simp only [Char.isDigit, Bool.and_eq_true, decide_eq_true_eq, ge_iff_le, UInt32.le_iff_toNat_le] at hdigit
    have hupper : c.toNat ≤ 57 := hdigit.2
    cases h
    exact ⟨by omega, by show c.toNat - 48 < 16; omega⟩
  · split at h
    · rename_i hletter
      have hlower : 97 ≤ c.toNat := hle hletter.1
      have hupper : c.toNat ≤ 102 := hle hletter.2
      cases h
      exact ⟨by omega, by show c.toNat - 97 + 10 < 16; omega⟩
    · split at h
      · rename_i hletter
        have hlower : 65 ≤ c.toNat := hle hletter.1
        have hupper : c.toNat ≤ 70 := hle hletter.2
        cases h
        exact ⟨by omega, by show c.toNat - 65 + 10 < 16; omega⟩
      · cases h

theorem digitValue?_eq_some_iff {c : Char} {d : Nat} : digitValue? c = some d ↔ IsDigit c d := by
  refine ⟨fun h => ?_, digitValue?_of_isDigit⟩
  -- there are few characters and values to look at
  have hchecked : ∀ k < 128, ∀ d < 16, digitValue? (Char.ofNat k) = some d →
      "0123456789abcdef".toList[d]? = some (Char.ofNat k) ∨ "0123456789ABCDEF".toList[d]? = some (Char.ofNat k) := by
    decide +kernel
  obtain ⟨hc, hd⟩ := lt_of_digitValue? h
  rw [← Char.ofNat_toNat c] at h ⊢
  exact hchecked c.toNat hc d hd h

theorem digitBelow?_eq_some_iff {radix : Nat} {c : Char} {d : Nat} :
    digitBelow? radix c = some d ↔ IsDigit c d ∧ d < radix := by
  rw [digitBelow?, Option.filter_eq_some_iff, digitValue?_eq_some_iff, decide_eq_true_eq]

/-! ## Numbers -/

/-- Digits are read when each of them is. -/
theorem mapM_digitBelow?_eq_some_iff {radix : Nat} {s : List Char} {ds : List Nat} :
    s.mapM (digitBelow? radix) = some ds ↔ List.Forall₂ IsDigit s ds ∧ ∀ d ∈ ds, d < radix := by
  induction s generalizing ds with
  | nil =>
    simp only [List.mapM_nil, List.forall₂_nil_left_iff]
    constructor
    · intro h
      cases h
      exact ⟨rfl, by simp⟩
    · rintro ⟨rfl, -⟩
      rfl
  | cons c s ih =>
    simp only [List.mapM_cons, Option.bind_eq_bind, Option.bind_eq_some_iff, List.forall₂_cons_left_iff]
    constructor
    · rintro ⟨d, hd, rest, hrest, h⟩
      cases h
      obtain ⟨hdigit, hlt⟩ := digitBelow?_eq_some_iff.mp hd
      obtain ⟨hdigits, hbelow⟩ := ih.mp hrest
      exact ⟨⟨d, rest, hdigit, hdigits, rfl⟩, List.forall_mem_cons.mpr ⟨hlt, hbelow⟩⟩
    · rintro ⟨⟨d, rest, hdigit, hdigits, rfl⟩, hbelow⟩
      obtain ⟨hlt, hbelow⟩ := List.forall_mem_cons.mp hbelow
      exact ⟨d, digitBelow?_eq_some_iff.mpr ⟨hdigit, hlt⟩, rest, ih.mpr ⟨hdigits, hbelow⟩, rfl⟩

/-- From left to right each digit multiplies what stands before it; from right to left it counts its power. -/
theorem ofDigits_eq_reverse (radix : Nat) (ds : List Nat) : ofDigits radix ds = Nat.ofDigits radix ds.reverse := by
  induction ds using List.reverseRecOn with
  | nil => rfl
  | append_singleton ds d ih =>
    rw [ofDigits_concat, ih, List.reverse_append, List.reverse_singleton, List.singleton_append, Nat.ofDigits_cons,
      Nat.mul_comm, Nat.add_comm]

/-- A text is read as the number that it writes. -/
theorem readDigits?_eq_some_iff {radix : Nat} {s : List Char} {n : Nat} :
    readDigits? radix s = some n ↔ Numeral radix s n := by
  rw [readDigits?, Numeral]
  cases s with
  | nil => simp
  | cons c s =>
    simp only [List.isEmpty_cons, Bool.false_eq_true, if_false, Option.map_eq_some_iff, mapM_digitBelow?_eq_some_iff,
      ofDigits_eq_reverse, and_assoc]
    exact ⟨fun h => ⟨List.cons_ne_nil c s, h⟩, fun h => h.2⟩

/-- A zero before other digits counts nothing. -/
theorem readDigits?_zero_cons {radix : Nat} (hradix : 0 < radix) {s : List Char} (hs : s ≠ []) :
    readDigits? radix ('0' :: s) = readDigits? radix s := by
  have hzero : digitBelow? radix '0' = some 0 := digitBelow?_eq_some_iff.mpr ⟨Or.inl rfl, hradix⟩
  have hcount : ∀ ds, ofDigits radix (0 :: ds) = ofDigits radix ds := fun ds => by simp [ofDigits]
  obtain ⟨c, s, rfl⟩ := List.exists_cons_of_ne_nil hs
  rw [readDigits?, readDigits?, List.mapM_cons, hzero]
  cases (c :: s).mapM (digitBelow? radix) with
  | none => rfl
  | some ds => exact congrArg some (hcount ds)

/-! ## Which texts are numerals -/

/-- The characters of a numeral are digits below its radix. -/
theorem Numeral.isDigit {radix n : Nat} {s : List Char} (h : Numeral radix s n) {c : Char} (hc : c ∈ s) :
    ∃ d, IsDigit c d ∧ d < radix := by
  obtain ⟨-, ds, hdigits, hbelow, -⟩ := h
  obtain ⟨i, hi, rfl⟩ := List.mem_iff_getElem.mp hc
  have hi' : i < ds.length := hdigits.length_eq ▸ hi
  exact ⟨ds[i], hdigits.get hi hi', hbelow _ (List.getElem_mem hi')⟩

theorem not_numeral_of_le {radix n : Nat} {s : List Char} {c : Char} {d : Nat} (hc : c ∈ s) (hd : IsDigit c d)
    (hle : radix ≤ d) : ¬Numeral radix s n := by
  intro h
  obtain ⟨d', hd', hlt⟩ := h.isDigit hc
  have hsame : d' = d := Option.some.inj ((digitValue?_of_isDigit hd').symm.trans (digitValue?_of_isDigit hd))
  omega

theorem exists_numeral {radix : Nat} {s : List Char} (hs : s ≠ []) (h : ∀ c ∈ s, ∃ d, IsDigit c d ∧ d < radix) :
    ∃ n, Numeral radix s n := by
  have hdigits : ∃ ds, List.Forall₂ IsDigit s ds ∧ ∀ d ∈ ds, d < radix := by
    clear hs
    induction s with
    | nil => exact ⟨[], .nil, by simp⟩
    | cons c s ih =>
      obtain ⟨d, hd, hlt⟩ := h c List.mem_cons_self
      obtain ⟨ds, hds, hbelow⟩ := ih fun c' hc' => h c' (List.mem_cons_of_mem c hc')
      exact ⟨d :: ds, .cons hd hds, List.forall_mem_cons.mpr ⟨hlt, hbelow⟩⟩
  obtain ⟨ds, hds, hbelow⟩ := hdigits
  exact ⟨_, hs, ds, hds, hbelow, rfl⟩

end QueryTemplate
