import QueryTemplate.Text.Reader

/-!
# What readers read

A specification of a reader says what it reads when it succeeds: a prefix of the text, of which and of the value a
property holds (`Reader.Reads`). There is one lemma for each way of putting readers together. Where only the text matters
and its property holds of texts that follow each other, `Reader.Within` is shorter, and where only the value matters,
`Reader.Yields` is.
-/

namespace QueryTemplate

namespace Reader

variable {α β : Type}

/-! ## Success -/

/-- Two readers succeed when the first does and the second does on what is left. -/
theorem andThen_eq_done {p : Reader α} {q : α → Reader β} {s rest : List Char} {b : β}
    (h : p.andThen q s = .done b rest) : ∃ a mid, p s = .done a mid ∧ q a mid = .done b rest := by
  rw [Reader.andThen] at h
  split at h
  · exact ⟨_, _, by assumption, h⟩
  · cases h
  · cases h

/-- Of some readers one succeeds. -/
theorem firstOf_eq_done {ps : List (Reader α)} {s rest : List Char} {a : α} (h : firstOf ps s = .done a rest) :
    ∃ p ∈ ps, p s = .done a rest := by
  induction ps with
  | nil => cases h
  | cons p ps ih =>
    simp only [firstOf] at h
    split at h
    · split at h
      · cases h
      · obtain ⟨q, hq, hs⟩ := ih h
        exact ⟨q, List.mem_cons_of_mem p hq, hs⟩
    · exact ⟨p, List.mem_cons_self, h⟩

/-- Something that may be absent is read, or nothing is. -/
theorem optional_eq_done {p : Reader α} {s rest : List Char} {o : Option α} (h : Reader.optional p s = .done o rest) :
    (o = none ∧ s = rest) ∨ ∃ a, o = some a ∧ p s = .done a rest := by
  rw [Reader.optional] at h
  split at h
  · rename_i a mid hp
    cases h
    exact Or.inr ⟨a, rfl, hp⟩
  · cases h
    exact Or.inl ⟨rfl, rfl⟩
  · cases h

/-- What is read stands for the value. -/
theorem mapOption_eq_done {p : Reader α} {f : α → Option β} {s rest : List Char} {b : β}
    (h : Reader.mapOption p f s = .done b rest) : ∃ a, p s = .done a rest ∧ f a = some b := by
  rw [Reader.mapOption] at h
  split at h
  · rename_i a mid hread
    split at h
    · rename_i hb
      cases h
      exact ⟨a, hread, hb⟩
    · cases h
  · cases h
  · cases h

/-! ## Readers that miss or fail -/

/-- The reader misses on the text, wherever it says so. -/
def Misses (p : Reader α) (s : List Char) : Prop :=
  ∃ place, p s = .miss place

/-- What misses first misses as a whole, at the same place. -/
theorem andThen_of_miss {p : Reader α} {q : α → Reader β} {s place : List Char} (h : p s = .miss place) :
    p.andThen q s = .miss place := by
  rw [andThen, h]

/-- What misses first misses as a whole. -/
theorem Misses.andThen {p : Reader α} {s : List Char} (h : p.Misses s) (q : α → Reader β) : (p.andThen q).Misses s :=
  h.imp fun _ hs => andThen_of_miss hs

/-- What only makes a value out of what was read does not miss by itself. -/
theorem Misses.of_andThen_succeed {p : Reader α} {f : α → β} {s : List Char}
    (h : (p.andThen fun a => succeed (f a)).Misses s) : p.Misses s := by
  obtain ⟨place, hplace⟩ := h
  rw [Reader.andThen] at hplace
  split at hplace
  · cases hplace
  · exact ⟨_, by assumption⟩
  · cases hplace

/-- What fails first fails as a whole, at the same place. -/
theorem andThen_of_fail {p : Reader α} {q : α → Reader β} {s place : List Char} (h : p s = .fail place) :
    p.andThen q s = .fail place := by
  rw [andThen, h]

/-- After a reader that fails no other is tried. -/
theorem firstOf_cons_of_fail {p : Reader α} {ps : List (Reader α)} {s place : List Char} (h : p s = .fail place) :
    firstOf (p :: ps) s = .fail place := by
  simp [firstOf, h]

/-- After a reader that misses the next one is tried. -/
theorem Misses.firstOf_cons {p : Reader α} {s : List Char} (h : p.Misses s) (q : Reader α) (ps : List (Reader α)) :
    firstOf (p :: q :: ps) s = firstOf (q :: ps) s :=
  h.elim fun _ hs => firstOf_cons_of_miss hs

/-- Readers that miss are passed over. -/
theorem firstOf_append_of_miss {ps qs : List (Reader α)} {s : List Char} (h : ∀ p ∈ ps, Misses p s) (hqs : qs ≠ []) :
    firstOf (ps ++ qs) s = firstOf qs s := by
  induction ps with
  | nil => rfl
  | cons p ps ih =>
    obtain ⟨q, rest, hrest⟩ := List.exists_cons_of_ne_nil (List.append_ne_nil_of_right_ne_nil ps hqs)
    rw [List.cons_append, hrest, (h p List.mem_cons_self).firstOf_cons, ← hrest]
    exact ih fun q hq => h q (List.mem_cons_of_mem p hq)

/-- The last reader decides by itself. -/
theorem firstOf_singleton (p : Reader α) (s : List Char) : firstOf [p] s = p s := by
  simp only [firstOf]
  cases p s <;> rfl

/-- A reader that does not miss decides. -/
theorem firstOf_cons_of_not_misses {p : Reader α} {s : List Char} (h : ¬p.Misses s) (ps : List (Reader α)) :
    firstOf (p :: ps) s = p s := by
  cases hread : p s with
  | done a rest => exact firstOf_cons_of_done hread
  | fail place => exact firstOf_cons_of_fail hread
  | miss place => exact absurd ⟨place, hread⟩ h

/-- Of the readers for some forms the one for a form decides if it does not miss and those before it do. -/
theorem firstOf_map_of_not_misses {ι : Type} [DecidableEq ι] {forms : List ι} {form : ι} (hform : form ∈ forms)
    {p : ι → Reader α} {s : List Char} (before : ∀ other ∈ forms.takeWhile (· != form), (p other).Misses s)
    (h : ¬(p form).Misses s) : firstOf (forms.map p) s = p form s := by
  induction forms with
  | nil => cases hform
  | cons other forms ih =>
    by_cases heq : other = form
    · subst heq
      exact firstOf_cons_of_not_misses h _
    · have hmem : form ∈ forms := List.mem_of_ne_of_mem (Ne.symm heq) hform
      rw [List.takeWhile_cons_of_pos (by rwa [bne_iff_ne]), List.forall_mem_cons] at before
      have hrest := ih hmem before.2
      obtain ⟨next, rest, rfl⟩ := List.exists_cons_of_ne_nil (List.ne_nil_of_mem hmem)
      exact (before.1.firstOf_cons _ _).trans hrest

/-- Some readers miss if each of them does. -/
theorem misses_firstOf_iff {ps : List (Reader α)} {s : List Char} : (firstOf ps).Misses s ↔ ∀ p ∈ ps, Misses p s := by
  induction ps with
  | nil => exact ⟨fun _ p hp => (List.not_mem_nil hp).elim, fun _ => ⟨s, rfl⟩⟩
  | cons p ps ih =>
    rw [List.forall_mem_cons, ← ih]
    cases hread : p s with
    | done a rest => simp [Misses, firstOf, hread]
    | fail place => simp [Misses, firstOf, hread]
    | miss place => cases ps <;> simp [Misses, firstOf, hread]

/-- What is missed has no spelling. -/
theorem Misses.withSpelling {p : Reader α} {s : List Char} (h : p.Misses s) : (Reader.withSpelling p).Misses s :=
  h.imp fun _ hs => by rw [Reader.withSpelling, hs]

/-- A text is missed exactly where it does not stand. -/
theorem misses_text_iff {cs s : List Char} : (text cs).Misses s ↔ ¬cs <+: s := by
  rw [Misses, text, ← List.isPrefixOf_iff_prefix]
  split
  · rename_i h
    simp [h]
  · rename_i h
    simp [h]

/-- A character is missed where another one stands. -/
theorem char_of_ne {c d : Char} (h : d ≠ c) (s : List Char) : char c (d :: s) = .miss (d :: s) := by
  rw [char, satisfy, if_neg (by rwa [beq_iff_eq])]

/-! ## Prefixes -/

/-- Whenever the reader succeeds, it has read a prefix of the text, and the property holds of the value and the prefix. -/
def Reads (p : Reader α) (Q : α → List Char → Prop) : Prop :=
  ∀ s a rest, p s = .done a rest → ∃ u, s = u ++ rest ∧ Q a u

/-- A reader reads what has a weaker property. -/
theorem Reads.mono {p : Reader α} {P Q : α → List Char → Prop} (h : p.Reads P) (hPQ : ∀ a u, P a u → Q a u) :
    p.Reads Q := by
  intro s a rest hs
  obtain ⟨u, hu, hP⟩ := h s a rest hs
  exact ⟨u, hu, hPQ a u hP⟩

/-- Nothing is read. -/
theorem reads_succeed (a : α) : (succeed a).Reads fun b u => b = a ∧ u = [] := by
  intro s b rest h
  cases h
  exact ⟨[], rfl, rfl, rfl⟩

/-- One reader after the other reads one prefix after the other. -/
theorem Reads.andThen {p : Reader α} {q : α → Reader β} {P : α → List Char → Prop} {R : α → β → List Char → Prop}
    (hp : p.Reads P) (hq : ∀ a, (q a).Reads (R a)) :
    (p.andThen q).Reads fun b w => ∃ a u v, w = u ++ v ∧ P a u ∧ R a b v := by
  intro s b rest h
  obtain ⟨a, mid, hfirst, hsecond⟩ := andThen_eq_done h
  obtain ⟨u, rfl, hP⟩ := hp s a mid hfirst
  obtain ⟨v, rfl, hR⟩ := hq a mid b rest hsecond
  exact ⟨u ++ v, (List.append_assoc u v rest).symm, a, u, v, rfl, hP, hR⟩

/-- One of some readers reads what they all read. -/
theorem reads_firstOf {ps : List (Reader α)} {Q : α → List Char → Prop} (h : ∀ p ∈ ps, Reads p Q) :
    (firstOf ps).Reads Q := by
  intro s a rest hs
  obtain ⟨p, hp, hs⟩ := firstOf_eq_done hs
  exact h p hp s a rest hs

/-- Something that may be absent is read, or nothing is. -/
theorem Reads.optional {p : Reader α} {P : α → List Char → Prop} (h : p.Reads P) :
    (Reader.optional p).Reads fun b u => (b = none ∧ u = []) ∨ ∃ a, b = some a ∧ P a u := by
  intro s b rest hs
  obtain ⟨rfl, rfl⟩ | ⟨a, rfl, hdone⟩ := optional_eq_done hs
  · exact ⟨[], rfl, Or.inl ⟨rfl, rfl⟩⟩
  · obtain ⟨u, hu, hP⟩ := h s a rest hdone
    exact ⟨u, hu, Or.inr ⟨a, rfl, hP⟩⟩

/-- One character of the class is read. -/
theorem reads_satisfy (p : Char → Bool) : (satisfy p).Reads fun c u => u = [c] ∧ p c = true := by
  intro s c rest h
  cases s with
  | nil => cases h
  | cons d s =>
    rw [satisfy] at h
    split at h
    · rename_i hd
      cases h
      exact ⟨[_], rfl, rfl, hd⟩
    · cases h

/-- The given character is read. -/
theorem reads_char (c : Char) : (char c).Reads fun d u => d = c ∧ u = [c] := by
  refine (reads_satisfy (· == c)).mono ?_
  rintro d u ⟨rfl, hd⟩
  have hdc : d = c := by simpa using hd
  exact ⟨hdc, by rw [hdc]⟩

/-- A given text is read as it stands. -/
theorem reads_text (cs : List Char) : (text cs).Reads fun _ u => u = cs := by
  intro s _ rest h
  rw [text] at h
  split at h
  · rename_i hprefix
    cases h
    obtain ⟨rest, rfl⟩ := List.isPrefixOf_iff_prefix.mp hprefix
    exact ⟨cs, by rw [List.drop_left], rfl⟩
  · cases h

/-- A given text is read where it stands, whatever comes after it. -/
theorem text_append (cs rest : List Char) : text cs (cs ++ rest) = .done () rest := by
  rw [text, if_pos (List.isPrefixOf_iff_prefix.mpr (List.prefix_append cs rest)), List.drop_left]

/-- Characters of the class are read as they stand. -/
theorem reads_takeWhile (p : Char → Bool) : (takeWhile p).Reads fun cs u => u = cs ∧ ∀ c ∈ cs, p c = true := by
  intro s cs rest h
  cases h
  exact ⟨s.takeWhile p, List.takeWhile_append_dropWhile.symm, rfl, List.all_eq_true.mp List.all_takeWhile⟩

/-- As many characters of a class are read as it was asked for. -/
theorem reads_exactly (p : Char → Bool) (n : Nat) :
    (exactly p n).Reads fun cs u => u = cs ∧ cs.length = n ∧ ∀ c ∈ cs, p c = true := by
  intro s cs rest h
  rw [exactly] at h
  split at h
  · rename_i hs
    cases h
    exact ⟨s.take n, (List.take_append_drop n s).symm, rfl, hs.1, List.all_eq_true.mp hs.2⟩
  · cases h

/-- Characters of a class are read, whatever comes after them. -/
theorem exactly_append {p : Char → Bool} {u : List Char} (h : ∀ c ∈ u, p c = true) (rest : List Char) :
    exactly p u.length (u ++ rest) = .done u rest := by
  have htake : (u ++ rest).take u.length = u := List.take_left
  have hall : u.all p = true := List.all_eq_true.mpr h
  rw [exactly, htake, if_pos ⟨rfl, hall⟩, List.drop_left]

/-- Nothing is read, whatever comes next. -/
theorem reads_notNext (p : Char → Bool) : (notNext p).Reads fun _ u => u = [] := by
  intro s a rest h
  cases s with
  | nil => cases h; exact ⟨[], rfl, rfl⟩
  | cons c s =>
    rw [notNext] at h
    split at h
    · cases h
    · cases h; exact ⟨[], rfl, rfl⟩

/-- What stands for a value is read as it is read without the value. -/
theorem Reads.mapOption {p : Reader α} {P : α → List Char → Prop} (h : p.Reads P) (f : α → Option β) :
    (Reader.mapOption p f).Reads fun b u => ∃ a, f a = some b ∧ P a u := by
  intro s b rest hs
  obtain ⟨a, hread, ha⟩ := mapOption_eq_done hs
  obtain ⟨u, hu, hP⟩ := h s a rest hread
  exact ⟨u, hu, a, ha, hP⟩

/-- The spelling changes nothing about what is read. -/
theorem Reads.withSpelling {p : Reader α} {P : α → List Char → Prop} (h : p.Reads P) :
    (Reader.withSpelling p).Reads fun b u => P b.1 u := by
  intro s b rest hs
  rw [Reader.withSpelling] at hs
  split at hs
  · rename_i a mid hp
    cases hs
    exact h s a _ hp
  · cases hs
  · cases hs

/-! ## Texts of one kind -/

/-- A property of texts that holds of nothing and of texts that follow each other. -/
structure Closed (P : List Char → Prop) : Prop where
  nil : P []
  append : ∀ {u v : List Char}, P u → P v → P (u ++ v)

/-- The reader reads only texts of one kind. -/
def Within (P : List Char → Prop) (p : Reader α) : Prop :=
  p.Reads fun _ u => P u

section

variable {P : List Char → Prop} (hP : Closed P)
include hP

/-- Nothing is of the kind. -/
theorem Closed.succeed (a : α) : Within P (Reader.succeed a) :=
  (reads_succeed a).mono fun _ _ h => h.2 ▸ hP.nil

/-- Texts of the kind follow each other. -/
theorem Closed.andThen {p : Reader α} {q : α → Reader β} (hp : Within P p) (hq : ∀ a, Within P (q a)) :
    Within P (p.andThen q) := by
  refine (Reads.andThen hp hq).mono ?_
  rintro _ _ ⟨_, _, _, rfl, hu, hv⟩
  exact hP.append hu hv

/-- What is absent is of the kind, too. -/
theorem Closed.optional {p : Reader α} (hp : Within P p) : Within P (Reader.optional p) := by
  refine (Reads.optional hp).mono ?_
  rintro _ _ (⟨_, rfl⟩ | ⟨_, _, hu⟩)
  · exact hP.nil
  · exact hu

/-- Each repetition reads a text of the kind. -/
theorem Closed.manyWithin {p : Reader α} (hp : Within P p) (bound : Nat) : Within P (Reader.manyWithin p bound) := by
  induction bound with
  | zero =>
    intro s as rest hs
    simp only [Reader.manyWithin] at hs
    split at hs
    · cases hs
    · cases hs; exact ⟨[], rfl, hP.nil⟩
    · cases hs
  | succ bound ih =>
    intro s as rest hs
    simp only [Reader.manyWithin] at hs
    split at hs
    · rename_i a mid ha
      split at hs
      · rename_i more after hmore
        cases hs
        obtain ⟨u, rfl, hu⟩ := hp s a mid ha
        obtain ⟨v, rfl, hv⟩ := ih mid more _ hmore
        exact ⟨u ++ v, (List.append_assoc u v _).symm, hP.append hu hv⟩
      · cases hs
      · cases hs
    · cases hs; exact ⟨[], rfl, hP.nil⟩
    · cases hs

/-- What can be repeated reads texts of the kind as often as it is. -/
theorem Closed.many {p : Reader α} (hp : Within P p) : Within P (Reader.many p) :=
  fun s as rest hs => hP.manyWithin hp s.length s as rest hs

/-- Characters of a class are of the kind one by one. -/
theorem Closed.takeWhile {p : Char → Bool} (h : ∀ c, p c = true → P [c]) : Within P (Reader.takeWhile p) := by
  refine (reads_takeWhile p).mono ?_
  rintro _ u ⟨rfl, hu⟩
  induction u with
  | nil => exact hP.nil
  | cons c u ih =>
    have htail := ih fun d hd => hu d (List.mem_cons_of_mem c hd)
    exact hP.append (h c (hu c List.mem_cons_self)) htail

end

/-! ## Values -/

/-- A property holds of every value that the reader reads. -/
def Yields (p : Reader α) (V : α → Prop) : Prop :=
  ∀ s a rest, p s = .done a rest → V a

/-- The value is the one that is given. -/
theorem yields_succeed {V : α → Prop} {a : α} (h : V a) : (succeed a).Yields V := by
  intro s b rest hs
  cases hs
  exact h

/-- The second of two readers decides about the value, and may use what is known about the first one's. -/
theorem Yields.andThen {p : Reader α} {q : α → Reader β} {V : α → Prop} {W : β → Prop} (hp : p.Yields V)
    (hq : ∀ a, V a → (q a).Yields W) : (p.andThen q).Yields W := by
  intro s b rest h
  obtain ⟨a, mid, hfirst, hsecond⟩ := andThen_eq_done h
  exact hq a (hp s a mid hfirst) mid b rest hsecond

/-- After a reader about which nothing is known. -/
theorem yields_andThen {p : Reader α} {q : α → Reader β} {W : β → Prop} (hq : ∀ a, (q a).Yields W) :
    (p.andThen q).Yields W :=
  Yields.andThen (V := fun _ => True) (fun _ _ _ _ => trivial) fun a _ => hq a

/-- One of some readers yields what they all yield. -/
theorem yields_firstOf {ps : List (Reader α)} {V : α → Prop} (h : ∀ p ∈ ps, Yields p V) : (firstOf ps).Yields V := by
  intro s a rest hs
  obtain ⟨p, hp, hs⟩ := firstOf_eq_done hs
  exact h p hp s a rest hs

/-- If there is a value, it is one that the reader yields. -/
theorem Yields.optional {p : Reader α} {V : α → Prop} (h : p.Yields V) :
    (Reader.optional p).Yields fun o => ∀ a, o = some a → V a := by
  intro s o rest hs a ho
  subst ho
  obtain ⟨hnone, -⟩ | ⟨b, hsome, hdone⟩ := optional_eq_done hs
  · cases hnone
  · cases hsome
    exact h s a rest hdone

/-- A repetition yields only values that the reader yields. -/
theorem Yields.manyWithin {p : Reader α} {V : α → Prop} (h : p.Yields V) (bound : Nat) :
    (Reader.manyWithin p bound).Yields fun as => ∀ a ∈ as, V a := by
  induction bound with
  | zero =>
    intro s as rest hs
    simp only [Reader.manyWithin] at hs
    split at hs
    · cases hs
    · cases hs
      exact fun _ ha => by cases ha
    · cases hs
  | succ bound ih =>
    intro s as rest hs
    simp only [Reader.manyWithin] at hs
    split at hs
    · rename_i a mid ha
      split at hs
      · rename_i more after hmore
        cases hs
        intro b hb
        rcases List.mem_cons.mp hb with rfl | hb
        · exact h s b mid ha
        · exact ih mid more _ hmore b hb
      · cases hs
      · cases hs
    · cases hs
      exact fun _ ha => by cases ha
    · cases hs

/-- A repetition yields only values that the reader yields. -/
theorem Yields.many {p : Reader α} {V : α → Prop} (h : p.Yields V) : (Reader.many p).Yields fun as => ∀ a ∈ as, V a :=
  fun s as rest hs => h.manyWithin s.length s as rest hs

end Reader

end QueryTemplate
