import Mathlib.Data.List.Forall2
import QueryTemplate.Proofs.Text.Advance

/-!
# What a reader has read

A reader may look at the text behind what it reads: a number ends where no name goes on. What it has read is settled if cutting
off the text behind it, at any place, changes nothing (`Reader.Settles`). Then what was read can be read by itself
(`Reader.Settles.alone`). There is one lemma for each way of putting readers together. Where a reader is tried and another thing
is done when it misses, it has to miss on a text that is cut off, too (`Reader.KeepsMissing`).
-/

namespace QueryTemplate

namespace Reader

variable {α β : Type}

/-! ## Readers that go on missing -/

/-- Where the reader misses, it misses also if less of the text is there. -/
def KeepsMissing (p : Reader α) : Prop :=
  ∀ s, p.Misses s → ∀ t, t <+: s → p.Misses t

/-- The reader succeeds or fails. -/
def NeverMisses (p : Reader α) : Prop :=
  ∀ s, ¬p.Misses s

/-- What never misses has nothing to go on with. -/
theorem NeverMisses.keepsMissing {p : Reader α} (h : p.NeverMisses) : p.KeepsMissing :=
  fun s hs => absurd hs (h s)

/-- Reading nothing succeeds. -/
theorem neverMisses_succeed (a : α) : (succeed a).NeverMisses :=
  fun _ ⟨_, h⟩ => by cases h

/-- There may be no character of the class. -/
theorem neverMisses_takeWhile (p : Char → Bool) : (takeWhile p).NeverMisses :=
  fun _ ⟨_, h⟩ => by cases h

/-- What is absent is not missed. -/
theorem neverMisses_optional (p : Reader α) : (Reader.optional p).NeverMisses := by
  rintro s ⟨place, h⟩
  rw [Reader.optional] at h
  split at h <;> cases h

/-- Two readers that never miss do not miss one after the other. -/
theorem NeverMisses.andThen {p : Reader α} {q : α → Reader β} (hp : p.NeverMisses) (hq : ∀ a, (q a).NeverMisses) :
    (p.andThen q).NeverMisses := by
  rintro s ⟨place, h⟩
  rw [Reader.andThen] at h
  split at h
  · exact hq _ _ ⟨place, h⟩
  · rename_i hmiss
    exact hp s ⟨_, hmiss⟩
  · cases h

/-- After a character of a class. -/
theorem keepsMissing_satisfy_andThen {p : Char → Bool} {q : Char → Reader β} (hq : ∀ c, (q c).KeepsMissing) :
    ((satisfy p).andThen q).KeepsMissing := by
  intro s h t ht
  cases t with
  | nil => exact ⟨[], rfl⟩
  | cons c t =>
    obtain ⟨rest, rfl⟩ := ht
    rw [List.cons_append] at h
    by_cases hc : p c = true
    · have hs : ∀ s, (satisfy p).andThen q (c :: s) = q c s := fun s => andThen_of_done (if_pos hc)
      rw [Misses, hs] at h ⊢
      exact hq c _ h t (List.prefix_append t rest)
    · exact ⟨c :: t, andThen_of_miss (if_neg hc)⟩

/-- On less text there is the same character, or none. -/
theorem keepsMissing_satisfy (p : Char → Bool) : (satisfy p).KeepsMissing := by
  have h : (satisfy p).andThen succeed = satisfy p := by
    funext s
    rw [Reader.andThen]
    split <;> rename_i hs <;> rw [hs]
    rfl
  rw [← h]
  exact keepsMissing_satisfy_andThen fun c => (neverMisses_succeed c).keepsMissing

/-- After a character of a class that may be absent. At the end of the text what comes after it has to miss. -/
theorem keepsMissing_optional_satisfy_andThen {p : Char → Bool} {q : Option Char → Reader β}
    (hq : ∀ o, (q o).KeepsMissing) (hnil : (q none).Misses []) :
    ((Reader.optional (satisfy p)).andThen q).KeepsMissing := by
  intro s h t ht
  cases t with
  | nil => exact hnil
  | cons c t =>
    obtain ⟨rest, rfl⟩ := ht
    rw [List.cons_append] at h
    by_cases hc : p c = true
    · have hs : ∀ s, (Reader.optional (satisfy p)).andThen q (c :: s) = q (some c) s := by
        intro s
        have hdone : satisfy p (c :: s) = .done c s := if_pos hc
        exact andThen_of_done (by rw [Reader.optional, hdone])
      rw [Misses, hs] at h ⊢
      exact hq _ _ h t (List.prefix_append t rest)
    · have hs : ∀ s, (Reader.optional (satisfy p)).andThen q (c :: s) = q none (c :: s) := by
        intro s
        have hmiss : satisfy p (c :: s) = .miss (c :: s) := if_neg hc
        exact andThen_of_done (by rw [Reader.optional, hmiss])
      rw [Misses, hs] at h ⊢
      exact hq _ _ h (c :: t) (List.prefix_append (c :: t) rest)

/-- Before something that never misses. -/
theorem KeepsMissing.andThen {p : Reader α} {q : α → Reader β} (hp : p.KeepsMissing) (hq : ∀ a, (q a).NeverMisses) :
    (p.andThen q).KeepsMissing := by
  rintro s ⟨place, h⟩ t ht
  have hmiss : p.Misses s := by
    rw [Reader.andThen] at h
    split at h
    · exact absurd ⟨place, h⟩ (hq _ _)
    · exact ⟨_, by assumption⟩
    · cases h
  exact (hp s hmiss t ht).andThen q

/-- If each of some readers goes on missing, none of them is found on less text. -/
theorem keepsMissing_firstOf {ps : List (Reader α)} (h : ∀ p ∈ ps, KeepsMissing p) : (firstOf ps).KeepsMissing :=
  fun s hs t ht => misses_firstOf_iff.mpr fun p hp => h p hp s (misses_firstOf_iff.mp hs p hp) t ht

/-- A number of characters that stand for a value. If less of the text is there, there are too few of them, or the same ones. -/
theorem keepsMissing_mapOption_exactly (p : Char → Bool) (n : Nat) (f : List Char → Option α) :
    (Reader.mapOption (exactly p n) f).KeepsMissing := by
  rintro _ ⟨place, h⟩ t ⟨w, rfl⟩
  cases hread : exactly p n t with
  | done cs rest =>
    obtain ⟨u, rfl, rfl, rfl, hcs⟩ := reads_exactly p n t cs rest hread
    rw [Reader.mapOption, List.append_assoc, exactly_append hcs] at h
    dsimp only at h
    split at h
    · cases h
    · rename_i hnone
      refine ⟨u ++ rest, ?_⟩
      rw [Reader.mapOption, hread]
      dsimp only
      rw [hnone]
  | miss place => exact ⟨place, by rw [Reader.mapOption, hread]⟩
  | fail place =>
    rw [exactly] at hread
    split at hread <;> cases hread

/-! ## Readers of which what they have read is settled -/

/-- Whenever the reader succeeds, it has read a prefix of the text, the property holds of the value and the prefix, and the
reader does the same if the text behind the prefix is cut off at any place. -/
def Settles (p : Reader α) (Q : α → List Char → Prop) : Prop :=
  ∀ s a rest, p s = .done a rest → ∃ u, s = u ++ rest ∧ Q a u ∧ ∀ t, t <+: rest → p (u ++ t) = .done a t

/-- A settled reader is settled with a weaker property. -/
theorem Settles.mono {p : Reader α} {P Q : α → List Char → Prop} (h : p.Settles P) (hPQ : ∀ a u, P a u → Q a u) :
    p.Settles Q := by
  intro s a rest hs
  obtain ⟨u, hu, hP, hcut⟩ := h s a rest hs
  exact ⟨u, hu, hPQ a u hP, hcut⟩

/-- What was read is read also by itself. -/
theorem Settles.alone {p : Reader α} {Q : α → List Char → Prop} (h : p.Settles Q) {s rest : List Char} {a : α}
    (hs : p s = .done a rest) : ∃ u, s = u ++ rest ∧ Q a u ∧ p u = .done a [] := by
  obtain ⟨u, hu, hQ, hcut⟩ := h s a rest hs
  have hnil := hcut [] List.nil_prefix
  rw [List.append_nil] at hnil
  exact ⟨u, hu, hQ, hnil⟩

/-- Nothing is read, whatever stands there. -/
theorem settles_succeed (a : α) : (succeed a).Settles fun b u => b = a ∧ u = [] := by
  intro s b rest h
  cases h
  exact ⟨[], rfl, ⟨rfl, rfl⟩, fun _ _ => rfl⟩

/-- The texts of two readers follow each other, and the first one is settled even if the second one is cut off. -/
theorem Settles.andThen {p : Reader α} {q : α → Reader β} {P : α → List Char → Prop} {R : α → β → List Char → Prop}
    (hp : p.Settles P) (hq : ∀ a, (q a).Settles (R a)) :
    (p.andThen q).Settles fun b w => ∃ a u v, w = u ++ v ∧ P a u ∧ R a b v := by
  intro s b rest h
  obtain ⟨a, mid, hfirst, hsecond⟩ := andThen_eq_done h
  obtain ⟨u, rfl, hP, hcut⟩ := hp s a mid hfirst
  obtain ⟨v, rfl, hR, hcut'⟩ := hq a mid b rest hsecond
  refine ⟨u ++ v, (List.append_assoc u v rest).symm, ⟨a, u, v, rfl, hP, hR⟩, fun t ht => ?_⟩
  rw [List.append_assoc, andThen_of_done (hcut (v ++ t) ((List.prefix_append_right_inj v).mpr ht))]
  exact hcut' t ht

/-- One character is read, whatever comes after it. -/
theorem settles_satisfy (p : Char → Bool) : (satisfy p).Settles fun c u => u = [c] ∧ p c = true := by
  intro s c rest h
  obtain ⟨u, rfl, rfl, hc⟩ := reads_satisfy p s c rest h
  exact ⟨[c], rfl, ⟨rfl, hc⟩, fun _ _ => if_pos hc⟩

/-- A given character is one of a class. -/
theorem settles_char (c : Char) : (char c).Settles fun d u => d = c ∧ u = [c] := by
  refine (settles_satisfy (· == c)).mono ?_
  rintro d u ⟨rfl, hd⟩
  have hdc : d = c := by simpa using hd
  exact ⟨hdc, by rw [hdc]⟩

/-- The text that is left begins with no character of the class, and neither does a part of it. -/
theorem settles_takeWhile (p : Char → Bool) :
    (takeWhile p).Settles fun cs u => u = cs ∧ ∀ c ∈ cs, p c = true := by
  intro s cs rest h
  obtain ⟨u, hs, rfl, hall⟩ := reads_takeWhile p s cs rest h
  refine ⟨u, hs, ⟨rfl, hall⟩, fun t ht => takeWhile_append p hall fun c hc => ?_⟩
  -- The text that is cut off begins as `rest` does, or it is empty.
  cases h
  obtain ⟨t', rfl⟩ := List.head?_eq_some_iff.mp hc
  obtain ⟨w, hw⟩ := ht
  have hhead := List.head?_dropWhile_not p s
  rw [← hw] at hhead
  exact hhead

/-- As many characters are read, whatever comes after them. -/
theorem settles_exactly (p : Char → Bool) (n : Nat) : (exactly p n).Settles fun cs u => u = cs := by
  intro s cs rest h
  obtain ⟨u, hs, rfl, rfl, hall⟩ := reads_exactly p n s cs rest h
  exact ⟨u, hs, rfl, fun t _ => exactly_append hall t⟩

/-- The value depends only on what was read. -/
theorem Settles.mapOption {p : Reader α} {P : α → List Char → Prop} (h : p.Settles P) (f : α → Option β) :
    (Reader.mapOption p f).Settles fun b u => ∃ a, f a = some b ∧ P a u := by
  intro s b rest hs
  obtain ⟨a, hread, ha⟩ := mapOption_eq_done hs
  obtain ⟨u, rfl, hP, hcut⟩ := h s a rest hread
  refine ⟨u, rfl, ⟨a, ha, hP⟩, fun t ht => ?_⟩
  rw [Reader.mapOption, hcut t ht]
  dsimp only
  rw [ha]

/-- If the next character is none of the class, then neither is the first of what is left of the text. -/
theorem settles_notNext (p : Char → Bool) : (notNext p).Settles fun _ u => u = [] := by
  intro s a rest h
  obtain ⟨u, rfl, rfl⟩ := reads_notNext p s a rest h
  refine ⟨[], rfl, rfl, fun t ht => ?_⟩
  cases t with
  | nil => rfl
  | cons c t =>
    obtain ⟨w, rfl⟩ := ht
    rw [List.nil_append, List.cons_append, notNext] at h
    split at h
    · cases h
    · rename_i hc
      exact if_neg hc

/-- Where something was absent it is absent on less text, too. -/
theorem Settles.optional {p : Reader α} {P : α → List Char → Prop} (h : p.Settles P) (hmiss : p.KeepsMissing) :
    (Reader.optional p).Settles fun o u => (o = none ∧ u = []) ∨ ∃ a, o = some a ∧ P a u := by
  intro s o rest hs
  rw [Reader.optional] at hs
  split at hs
  · rename_i a mid hdone
    cases hs
    obtain ⟨u, rfl, hP, hcut⟩ := h s a _ hdone
    exact ⟨u, rfl, Or.inr ⟨a, rfl, hP⟩, fun t ht => by rw [Reader.optional, hcut t ht]⟩
  · rename_i place hplace
    cases hs
    refine ⟨[], rfl, Or.inl ⟨rfl, rfl⟩, fun t ht => ?_⟩
    obtain ⟨place', hplace'⟩ := hmiss _ ⟨place, hplace⟩ t ht
    rw [List.nil_append, Reader.optional, hplace']
  · cases hs

/-- The reader that has read is settled, and those before it go on missing. -/
theorem settles_firstOf {ps : List (Reader α)} {Q : α → List Char → Prop} (h : ∀ p ∈ ps, Settles p Q)
    (hmiss : ∀ p ∈ ps, KeepsMissing p) : (firstOf ps).Settles Q := by
  induction ps with
  | nil => exact fun _ _ _ hs => by cases hs
  | cons p ps ih =>
    intro s a rest hs
    cases hread : p s with
    | done b mid =>
      rw [firstOf_cons_of_done hread] at hs
      cases hs
      obtain ⟨u, rfl, hQ, hcut⟩ := h p List.mem_cons_self s a _ hread
      exact ⟨u, rfl, hQ, fun t ht => firstOf_cons_of_done (hcut t ht)⟩
    | fail place => rw [firstOf_cons_of_fail hread] at hs; cases hs
    | miss place =>
      cases ps with
      | nil => rw [firstOf_singleton, hread] at hs; cases hs
      | cons q ps =>
        rw [firstOf_cons_of_miss hread] at hs
        obtain ⟨u, rfl, hQ, hcut⟩ :=
          ih (fun q hq => h q (List.mem_cons_of_mem p hq)) (fun q hq => hmiss q (List.mem_cons_of_mem p hq)) s a rest hs
        refine ⟨u, rfl, hQ, fun t ht => ?_⟩
        -- On less text, `p` must not succeed before the others are tried.
        have hp : p.Misses (u ++ t) :=
          hmiss p List.mem_cons_self _ ⟨place, hread⟩ _ ((List.prefix_append_right_inj u).mpr ht)
        rw [hp.firstOf_cons, hcut t ht]

/-- The spelling is what was read. -/
theorem Settles.withSpelling {p : Reader α} {Q : α → List Char → Prop} (h : p.Settles Q) :
    (Reader.withSpelling p).Settles fun x u => x.2 = u ∧ Q x.1 u := by
  intro s x rest hs
  rw [Reader.withSpelling] at hs
  split at hs
  · rename_i a mid hread
    cases hs
    obtain ⟨u, rfl, hQ, hcut⟩ := h s a _ hread
    refine ⟨u, rfl, ⟨by simp, hQ⟩, fun t ht => ?_⟩
    rw [withSpelling_of_append (hcut t ht)]
    simp
  · cases hs
  · cases hs

/-- A repetition reads one text after the other, one for each value. -/
theorem Settles.many {p : Reader α} {P : α → List Char → Prop} (h : p.Settles P) (hadvances : p.Advances)
    (hmiss : p.KeepsMissing) :
    (Reader.many p).Settles fun as w => ∃ us, List.Forall₂ P as us ∧ w = us.flatten := by
  have hshorter : ∀ s a rest, p s = .done a rest → rest.length < s.length := fun _ _ _ => hadvances.length_lt
  intro s as rest hs
  induction hn : s.length using Nat.strongRecOn generalizing s as rest with
  | ind n ih =>
    cases hread : p s with
    | done a mid =>
      rw [many_of_done hshorter hread] at hs
      obtain ⟨more, mid', hmore, hs⟩ := andThen_eq_done hs
      cases hs
      obtain ⟨v, rfl, ⟨us, hus, rfl⟩, hcut'⟩ := ih mid.length (hn ▸ hshorter _ _ _ hread) mid more _ hmore rfl
      obtain ⟨u, rfl, hP, hcut⟩ := h s a _ hread
      refine ⟨u ++ us.flatten, (List.append_assoc _ _ _).symm, ⟨u :: us, .cons hP hus, rfl⟩, fun t ht => ?_⟩
      have hfirst := hcut (us.flatten ++ t) ((List.prefix_append_right_inj _).mpr ht)
      rw [List.append_assoc, many_of_done hshorter hfirst, andThen_of_done (hcut' t ht)]
      rfl
    | miss place =>
      rw [many_of_miss hread] at hs
      cases hs
      refine ⟨[], rfl, ⟨[], .nil, rfl⟩, fun t ht => ?_⟩
      obtain ⟨place', hplace'⟩ := hmiss _ ⟨place, hread⟩ t ht
      exact many_of_miss hplace'
    | fail place =>
      -- The repetition fails with the reader.
      rw [Reader.many] at hs
      cases hlength : s.length <;> simp [hlength, Reader.manyWithin, hread] at hs

end Reader

end QueryTemplate
