import QueryTemplate.Text.Reader

/-!
# Where readers stop

A reader stops in the text that it reads: the rest that it leaves, and the place that it reports when it misses or fails, is
a suffix of the text (`Reader.StopsWithin`). There is one lemma for each way of putting readers together.
-/

namespace QueryTemplate

/-- The text from the place on at which a reader has stopped, whatever came of it. -/
def Reading.left {α : Type} : Reading α → List Char
  | .done _ rest => rest
  | .miss place => place
  | .fail place => place

/-- A reading that succeeds leaves the rest. -/
@[simp] theorem Reading.left_done {α : Type} (a : α) (rest : List Char) : (Reading.done a rest).left = rest := rfl

/-- A reading that misses leaves the text from the place where it misses. -/
@[simp] theorem Reading.left_miss {α : Type} (place : List Char) : (Reading.miss place : Reading α).left = place := rfl

/-- A reading that fails leaves the text from the place where it fails. -/
@[simp] theorem Reading.left_fail {α : Type} (place : List Char) : (Reading.fail place : Reading α).left = place := rfl

namespace Reader

variable {α β : Type}

/-- The reader stops at a place in the text. -/
def StopsWithin (p : Reader α) : Prop :=
  ∀ s, (p s).left <:+ s

/-- What is left after a success is a suffix of the text. -/
theorem StopsWithin.done {p : Reader α} (h : p.StopsWithin) {s rest : List Char} {a : α} (hs : p s = .done a rest) :
    rest <:+ s := by
  simpa [hs] using h s

/-- The place of a miss is in the text. -/
theorem StopsWithin.miss {p : Reader α} (h : p.StopsWithin) {s place : List Char} (hs : p s = .miss place) :
    place <:+ s := by
  simpa [hs] using h s

/-- The place of a failure is in the text. -/
theorem StopsWithin.fail {p : Reader α} (h : p.StopsWithin) {s place : List Char} (hs : p s = .fail place) :
    place <:+ s := by
  simpa [hs] using h s

/-! ## One thing -/

/-- Reading nothing leaves the text. -/
theorem stopsWithin_succeed (a : α) : (succeed a).StopsWithin :=
  fun s => List.suffix_refl s

/-- One character is read, or none. -/
theorem stopsWithin_satisfy (p : Char → Bool) : (satisfy p).StopsWithin := by
  intro s
  cases s with
  | nil => exact List.suffix_refl []
  | cons c rest =>
    rw [satisfy]
    split
    · exact List.suffix_cons c rest
    · exact List.suffix_refl _

/-- A given character is one of a class. -/
theorem stopsWithin_char (c : Char) : (char c).StopsWithin :=
  stopsWithin_satisfy _

/-- The characters of a class are read from the beginning on. -/
theorem stopsWithin_takeWhile (p : Char → Bool) : (takeWhile p).StopsWithin :=
  fun _ => List.dropWhile_suffix p

/-- Looking at a character leaves it there. -/
theorem stopsWithin_notNext (p : Char → Bool) : (notNext p).StopsWithin := by
  intro s
  cases s with
  | nil => exact List.suffix_refl []
  | cons c rest =>
    rw [notNext]
    split <;> exact List.suffix_refl _

/-- A text is read as a whole, or missed where it should begin. -/
theorem stopsWithin_text (cs : List Char) : (text cs).StopsWithin := by
  intro s
  rw [text]
  split
  · exact List.drop_suffix _ s
  · exact List.suffix_refl s

/-- As many characters are read as are asked for, or none. -/
theorem stopsWithin_exactly (p : Char → Bool) (n : Nat) : (exactly p n).StopsWithin := by
  intro s
  rw [exactly]
  split
  · exact List.drop_suffix n s
  · exact List.suffix_refl s

/-! ## One thing after another -/

/-- The second of two readers stops in what the first one leaves. -/
theorem StopsWithin.andThen {p : Reader α} {q : α → Reader β} (hp : p.StopsWithin)
    (hq : ∀ a, (q a).StopsWithin) : (p.andThen q).StopsWithin := by
  intro s
  rw [Reader.andThen]
  split
  · rename_i a rest hs
    exact (hq a rest).trans (hp.done hs)
  · exact hp.miss (by assumption)
  · exact hp.fail (by assumption)

/-- Without readers to try, the miss is at the beginning. -/
theorem stopsWithin_firstOf_nil : (firstOf ([] : List (Reader α))).StopsWithin :=
  fun s => List.suffix_refl s

/-- One of two readers decides where to stop. -/
theorem StopsWithin.firstOf_cons {p : Reader α} {ps : List (Reader α)} (hp : p.StopsWithin)
    (hps : (firstOf ps).StopsWithin) : (firstOf (p :: ps)).StopsWithin := by
  intro s
  simp only [firstOf]
  split
  · split
    · exact hp.miss (by assumption)
    · exact hps s
  · exact hp s

/-- Some readers that are tried in order stop in the text if each of them does. -/
theorem stopsWithin_firstOf {ps : List (Reader α)} (h : ∀ p ∈ ps, StopsWithin p) : (firstOf ps).StopsWithin := by
  induction ps with
  | nil => exact stopsWithin_firstOf_nil
  | cons p ps ih => exact (h p List.mem_cons_self).firstOf_cons (ih fun q hq => h q (List.mem_cons_of_mem p hq))

/-- Where something is absent nothing is read. -/
theorem StopsWithin.optional {p : Reader α} (h : p.StopsWithin) : (Reader.optional p).StopsWithin := by
  intro s
  rw [Reader.optional]
  split
  · exact h.done (by assumption)
  · exact List.suffix_refl s
  · exact h.fail (by assumption)

/-- Each repetition stops in what the one before it leaves. A bound that is used up misses at the beginning. -/
theorem StopsWithin.manyWithin {p : Reader α} (h : p.StopsWithin) (bound : Nat) :
    (Reader.manyWithin p bound).StopsWithin := by
  induction bound with
  | zero =>
    intro s
    simp only [Reader.manyWithin]
    split
    · exact List.suffix_refl s
    · exact List.suffix_refl s
    · exact h.fail (by assumption)
  | succ bound ih =>
    intro s
    simp only [Reader.manyWithin]
    split
    · rename_i a rest hs
      have hrest := (ih rest).trans (h.done hs)
      split <;> rename_i hmore <;> rwa [hmore] at hrest
    · exact List.suffix_refl s
    · exact h.fail (by assumption)

/-- Whatever can be repeated stops in the text as often as it is. -/
theorem StopsWithin.many {p : Reader α} (h : p.StopsWithin) : (Reader.many p).StopsWithin :=
  fun s => h.manyWithin s.length s

/-- What stands for no value is missed at the beginning. -/
theorem StopsWithin.mapOption {p : Reader α} (h : p.StopsWithin) (f : α → Option β) :
    (Reader.mapOption p f).StopsWithin := by
  intro s
  rw [Reader.mapOption]
  split
  · split
    · exact h.done (by assumption)
    · exact List.suffix_refl s
  · exact h.miss (by assumption)
  · exact h.fail (by assumption)

/-- The spelling says nothing about where to stop. -/
theorem StopsWithin.withSpelling {p : Reader α} (h : p.StopsWithin) : (Reader.withSpelling p).StopsWithin := by
  intro s
  rw [Reader.withSpelling]
  split
  · exact h.done (by assumption)
  · exact h.miss (by assumption)
  · exact h.fail (by assumption)

end Reader

end QueryTemplate
