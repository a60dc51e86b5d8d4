import QueryTemplate.Proofs.Text.Reads
import QueryTemplate.Proofs.Text.Stop

/-!
# Readers that advance

A reader advances if it never succeeds without having read a character (`Reader.Advances`). Such a reader can be repeated
(`Reader.Advances.repeats`). What stands after something that advances is read on a shorter text, so readers that are built
alike from readers which do the same on short texts do the same on texts that are longer by a character
(`Reader.Advances.agreesBelow_andThen`).
-/

namespace QueryTemplate

namespace Reader

variable {α β : Type}

/-! ## Progress -/

/-- Whenever the reader succeeds, it leaves a proper suffix of the text. -/
def Advances (p : Reader α) : Prop :=
  ∀ s a rest, p s = .done a rest → rest <:+ s ∧ rest ≠ s

/-- A proper suffix is shorter. -/
theorem Advances.length_lt {p : Reader α} (h : p.Advances) {s rest : List Char} {a : α} (hs : p s = .done a rest) :
    rest.length < s.length := by
  obtain ⟨hsuffix, hne⟩ := h s a rest hs
  exact Nat.lt_of_le_of_ne hsuffix.length_le fun hlength => hne (hsuffix.eq_of_length hlength)

/-- A suffix that is shorter is a proper one. -/
theorem advances_of_length_lt {p : Reader α} (hstop : p.StopsWithin)
    (h : ∀ s a rest, p s = .done a rest → rest.length < s.length) : p.Advances := by
  intro s a rest hs
  refine ⟨hstop.done hs, ?_⟩
  rintro rfl
  exact Nat.lt_irrefl _ (h rest a rest hs)

/-- A reader that reads no empty text advances. -/
theorem Reads.advances {p : Reader α} {Q : α → List Char → Prop} (h : p.Reads Q) (hne : ∀ a u, Q a u → u ≠ []) :
    p.Advances := by
  intro s a rest hs
  obtain ⟨u, rfl, hu⟩ := h s a rest hs
  exact ⟨List.suffix_append u rest, fun he => hne a u hu (List.self_eq_append_left.mp he)⟩

/-- A character of a class is read. -/
theorem advances_satisfy (p : Char → Bool) : (satisfy p).Advances :=
  (reads_satisfy p).advances fun c _ hu => hu.1 ▸ List.cons_ne_nil c []

/-- A given character is read. -/
theorem advances_char (c : Char) : (char c).Advances :=
  advances_satisfy _

/-- After a reader that advances another one only has to stay in the text. -/
theorem Advances.andThen {p : Reader α} {q : α → Reader β} (hp : p.Advances) (hq : ∀ a, (q a).StopsWithin) :
    (p.andThen q).Advances := by
  intro s b rest h
  obtain ⟨a, mid, hfirst, hsecond⟩ := andThen_eq_done h
  have hrest : rest <:+ mid := (hq a).done hsecond
  refine ⟨hrest.trans (hp s a mid hfirst).1, ?_⟩
  rintro rfl
  exact absurd hrest.length_le (Nat.not_le_of_lt (hp.length_lt hfirst))

/-- Before a reader that advances another one only has to stay in the text. -/
theorem StopsWithin.andThen_advances {p : Reader α} {q : α → Reader β} (hp : p.StopsWithin) (hq : ∀ a, (q a).Advances) :
    (p.andThen q).Advances := by
  intro s b rest h
  obtain ⟨a, mid, hfirst, hsecond⟩ := andThen_eq_done h
  have hmid : mid <:+ s := hp.done hfirst
  refine ⟨((hq a) mid b rest hsecond).1.trans hmid, ?_⟩
  rintro rfl
  exact absurd hmid.length_le (Nat.not_le_of_lt ((hq a).length_lt hsecond))

/-- The one of some readers that reads advances. -/
theorem advances_firstOf {ps : List (Reader α)} (h : ∀ p ∈ ps, Advances p) : (firstOf ps).Advances := by
  intro s a rest hs
  obtain ⟨p, hp, hs⟩ := firstOf_eq_done hs
  exact h p hp s a rest hs

/-- The spelling changes nothing about what is read. -/
theorem Advances.withSpelling {p : Reader α} (h : p.Advances) : (Reader.withSpelling p).Advances := by
  intro s b rest hs
  rw [Reader.withSpelling] at hs
  split at hs
  · rename_i a mid hp
    cases hs
    exact h s a _ hp
  · cases hs
  · cases hs

/-- How a repetition goes that never reads nothing: what is read takes a character at least, and where the reader misses or
fails, the repetition ends or fails. It does not miss. -/
inductive Repetition (p : Reader α) : List Char → Reading (List α) → Prop where
  | stop {s place : List Char} (h : p s = .miss place) : Repetition p s (.done [] s)
  | fail {s place : List Char} (h : p s = .fail place) : Repetition p s (.fail place)
  | next {s rest after : List Char} {a : α} {as : List α} (h : p s = .done a rest) (hne : rest ≠ s)
      (hmore : Repetition p rest (.done as after)) : Repetition p s (.done (a :: as) after)
  | failLater {s rest place : List Char} {a : α} (h : p s = .done a rest) (hne : rest ≠ s)
      (hmore : Repetition p rest (.fail place)) : Repetition p s (.fail place)

/-- The bound of a repetition is not used up by a reader that advances. -/
theorem Advances.repetition_manyWithin {p : Reader α} (h : p.Advances) {bound : Nat} {s : List Char}
    (hbound : s.length ≤ bound) : Repetition p s (manyWithin p bound s) := by
  induction bound generalizing s with
  | zero =>
    simp only [manyWithin]
    split
    · rename_i a rest hdone
      have hlt := h.length_lt hdone
      omega
    · exact .stop (by assumption)
    · exact .fail (by assumption)
  | succ bound ih =>
    simp only [manyWithin]
    split
    · rename_i a rest hdone
      have hne := (h s a rest hdone).2
      have hlt := h.length_lt hdone
      have hmore := ih (s := rest) (by omega)
      split <;> rename_i heq <;> rw [heq] at hmore
      · exact .next hdone hne hmore
      · cases hmore
      · exact .failLater hdone hne hmore
    · exact .stop (by assumption)
    · exact .fail (by assumption)

/-- Repeating the reader never comes to an end because nothing was read. -/
def Repeats (p : Reader α) : Prop :=
  ∀ s, Repetition p s (many p s)

/-- The text itself has characters enough for the repetition. -/
theorem Advances.repeats {p : Reader α} (h : p.Advances) : p.Repeats :=
  fun _ => h.repetition_manyWithin (Nat.le_refl _)

/-! ## Readers that do the same on short texts -/

/-- The two readers do the same on the texts that are shorter than the bound. -/
def AgreesBelow (n : Nat) (p q : Reader α) : Prop :=
  ∀ s, s.length < n → p s = q s

theorem AgreesBelow.refl (n : Nat) (p : Reader α) : AgreesBelow n p p :=
  fun _ _ => rfl

/-- No text is shorter than that. -/
theorem agreesBelow_zero (p q : Reader α) : AgreesBelow 0 p q :=
  fun _ hs => absurd hs (Nat.not_lt_zero _)

/-- One of the two first readers has to stay in the text; then the other one does so, too. -/
theorem AgreesBelow.andThen {n : Nat} {p p' : Reader α} {q q' : α → Reader β} (hp : AgreesBelow n p p')
    (hstop : p'.StopsWithin) (hq : ∀ a, AgreesBelow n (q a) (q' a)) : AgreesBelow n (p.andThen q) (p'.andThen q') := by
  intro s hs
  rw [Reader.andThen, Reader.andThen, hp s hs]
  split
  · rename_i a rest hdone
    exact hq a rest (Nat.lt_of_le_of_lt (hstop.done hdone).length_le hs)
  · rfl
  · rfl

/-- After something that advances the text is shorter. -/
theorem Advances.agreesBelow_andThen {n : Nat} {p : Reader α} {q q' : α → Reader β} (hp : p.Advances)
    (hq : ∀ a, AgreesBelow n (q a) (q' a)) : AgreesBelow (n + 1) (p.andThen q) (p.andThen q') := by
  intro s hs
  rw [Reader.andThen, Reader.andThen]
  split
  · rename_i a rest hdone
    have hlt := hp.length_lt hdone
    exact hq a rest (by omega)
  · rfl
  · rfl

/-- Forms that are tried in order, each read by two readers that do the same on short texts. -/
theorem agreesBelow_firstOf {ι : Type} {n : Nat} {p q : ι → Reader α} (h : ∀ form, AgreesBelow n (p form) (q form))
    (forms : List ι) : AgreesBelow n (firstOf (forms.map p)) (firstOf (forms.map q)) := by
  induction forms with
  | nil => exact AgreesBelow.refl n _
  | cons form forms ih =>
    intro s hs
    simp only [List.map_cons, firstOf, h form s hs, List.isEmpty_map, ih s hs]

/-- Each repetition is read on a text that is no longer than the one before. -/
theorem AgreesBelow.manyWithin {n : Nat} {p q : Reader α} (h : AgreesBelow n p q) (hstop : q.StopsWithin) (bound : Nat) :
    AgreesBelow n (Reader.manyWithin p bound) (Reader.manyWithin q bound) := by
  induction bound with
  | zero =>
    intro s hs
    simp only [Reader.manyWithin, h s hs]
  | succ bound ih =>
    intro s hs
    simp only [Reader.manyWithin, h s hs]
    split
    · rename_i a rest hdone
      rw [ih rest (Nat.lt_of_le_of_lt (hstop.done hdone).length_le hs)]
    · rfl
    · rfl

/-- What can be repeated reads the same as often as it is. -/
theorem AgreesBelow.many {n : Nat} {p q : Reader α} (h : AgreesBelow n p q) (hstop : q.StopsWithin) :
    AgreesBelow n (Reader.many p) (Reader.many q) :=
  fun s hs => h.manyWithin hstop s.length s hs

end Reader

end QueryTemplate
