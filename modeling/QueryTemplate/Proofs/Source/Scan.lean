import QueryTemplate.Source.Item

/-!
# One step of splitting a source

A source is cut at its first opening braces (`cutAt_eq_some_iff`), and what is found there decides how the splitting goes on
(`Item.scan_of_some`). The place at which the splitting begins changes nothing but offsets (`Item.scan_shift`).
-/

namespace QueryTemplate

/-! ## The first opening braces -/

/-- A cut is made where the two characters stand for the first time: they do not stand in what comes before together with
the first of them. -/
theorem cutAt_eq_some_iff {a b : Char} {s before after : List Char} :
    cutAt a b s = some (before, after) ↔ s = before ++ a :: b :: after ∧ ¬[a, b] <:+: before ++ [a] := by
  constructor
  · intro h
    refine ⟨eq_of_cutAt h, ?_⟩
    fun_induction cutAt a b s generalizing before after with
    | case1 x y rest hxy =>
      cases h
      intro hpair
      have := hpair.length_le
      simp at this
    | case2 x y rest hxy ih =>
      obtain ⟨⟨before', _⟩, hcut, he⟩ := Option.map_eq_some_iff.1 h
      cases he
      rw [List.cons_append, List.infix_cons_iff]
      rintro (hbegins | hpair)
      · -- the first two characters of the text would have been cut at
        have hwhole : [a, b] <+: x :: y :: rest := by
          rw [eq_of_cutAt hcut]
          exact hbegins.trans ⟨b :: after, by simp⟩
        obtain ⟨_, hwhole⟩ := hwhole
        injection hwhole with hx hwhole
        injection hwhole with hy _
        exact hxy ⟨hx.symm, hy.symm⟩
      · exact ih hcut hpair
    | case3 => cases h
  · rintro ⟨rfl, hfirst⟩
    induction before with
    | nil => rw [List.nil_append, cutAt, if_pos ⟨rfl, rfl⟩]
    | cons x before ih =>
      have htail : ¬[a, b] <:+: before ++ [a] := fun hpair => hfirst (List.infix_cons_iff.mpr (Or.inr hpair))
      obtain ⟨y, rest, hrest⟩ : ∃ y rest, before ++ a :: b :: after = y :: rest := by
        cases before with
        | nil => exact ⟨a, b :: after, rfl⟩
        | cons y before => exact ⟨y, before ++ a :: b :: after, rfl⟩
      have hxy : ¬(x = a ∧ y = b) := by
        rintro ⟨rfl, rfl⟩
        refine hfirst (List.infix_cons_iff.mpr (Or.inl ?_))
        cases before with
        | nil => cases hrest; exact ⟨[], rfl⟩
        | cons z before => cases hrest; exact ⟨before ++ [x], rfl⟩
      rw [List.cons_append, hrest, cutAt, if_neg hxy, ← hrest, ih htail]
      rfl

/-- Where no cut is made the two characters do not stand one after the other. -/
theorem not_infix_of_cutAt {a b : Char} {s : List Char} (h : cutAt a b s = none) : ¬[a, b] <:+: s := by
  fun_induction cutAt a b s with
  | case1 => cases h
  | case2 x y rest hxy ih =>
    rw [List.infix_cons_iff]
    rintro (⟨_, hbegins⟩ | hpair)
    · injection hbegins with hx hbegins
      injection hbegins with hy _
      exact hxy ⟨hx.symm, hy.symm⟩
    · exact ih (Option.map_eq_none_iff.mp h) hpair
  | case3 s hs =>
    intro hpair
    have hlength := hpair.length_le
    cases s with
    | nil => simp at hlength
    | cons x s =>
      cases s with
      | nil => simp at hlength
      | cons y rest => exact hs x y rest rfl

namespace Item

/-! ## Going on behind an action or comment -/

/-- A left trim marker is a dash and a blank; where there is none nothing is split off. -/
theorem leftMarker_cases (s : List Char) :
    (∃ c rest, isBlank c = true ∧ s = '-' :: c :: rest ∧ leftMarker s = (true, rest)) ∨ leftMarker s = (false, s) := by
  unfold leftMarker
  split
  · split
    · rename_i h
      exact Or.inl ⟨_, _, h.2, by rw [h.1], rfl⟩
    · exact Or.inr rfl
  · exact Or.inr rfl

/-- A text without its blanks on the sides of trim markers. -/
def trimmed (before after : Bool) (s : List Char) : List Char :=
  let start := if before then trimStart s else s
  if after then trimEnd start else start

/-- A source without opening braces is its text. -/
theorem scan_of_none {s : List Char} (h : cutAt '{' '{' s = none) (offset : Nat) (trims : Bool) :
    scan offset trims s = .ok (ofText (trimmed trims false s)) := by
  rw [scan]
  split
  · rfl
  · rename_i hcut
    rw [h] at hcut
    cases hcut

/-- A source with opening braces is the text before them, what is found behind them, and the items of the rest. -/
theorem scan_of_some {s before after : List Char} (h : cutAt '{' '{' s = some (before, after)) (offset : Nat)
    (trims : Bool) :
    scan offset trims s =
      match close (offset + utf8Length before)
          (offset + utf8Length before + if (leftMarker after).1 then 4 else 2) (leftMarker after).2 with
      | .error e => .error e
      | .ok found => (scan found.offset found.trims found.rest).map fun items =>
          ofText (trimmed trims (leftMarker after).1 before) ++ found.item :: items := by
  rw [scan]
  split
  · rename_i hcut
    rw [h] at hcut
    cases hcut
  · rename_i before' after' hcut
    rw [h] at hcut
    cases hcut
    have hstart : (if (leftMarker after).1 then offset + utf8Length before + 4 else offset + utf8Length before + 2) =
        offset + utf8Length before + if (leftMarker after).1 then 4 else 2 := by
      split <;> rfl
    dsimp only
    split <;> rename_i hclose
    · rw [← hstart, hclose]
    · rw [← hstart, hclose]
      rfl

/-! ## Offsets -/

/-- An item of a source that begins further on. -/
def shift (k : Nat) : Item → Item
  | .action offset body => .action (offset + k) body
  | item => item

/-- An action or comment of a source that begins further on. -/
def Found.shift (k : Nat) (found : Found) : Found :=
  ⟨found.item.shift k, found.offset + k, found.rest, found.trims⟩

/-- A place in a source that begins further on. -/
def Literal.shift (k : Nat) : Literal → Literal
  | .raw opening => .raw (opening + k)
  | place => place

end Item

/-- An error in a source that begins further on. -/
def Error.shift (k : Nat) : Error → Error
  | .parse offset cause => .parse (offset + k) cause
  | e => e

/-- What comes of a source that begins further on, if results are moved by a function. -/
def shifted {α : Type} (k : Nat) (move : α → α) : Except Error α → Except Error α
  | .ok a => .ok (move a)
  | .error e => .error (e.shift k)

namespace Item

theorem next_shift (k offset : Nat) (c : Char) (place : Literal) :
    (place.shift k).next (offset + k) c = (place.next offset c).shift k := by
  cases place with
  | outside =>
    simp only [Literal.shift, Literal.next]
    split
    · rfl
    · split <;> rfl
  | quoted quote =>
    simp only [Literal.shift, Literal.next]
    split
    · rfl
    · split <;> rfl
  | escaped quote => rfl
  | raw opening =>
    simp only [Literal.shift, Literal.next]
    split <;> rfl

theorem errorAtEnd_shift (k opening offset : Nat) (place : Literal) :
    (place.shift k).errorAtEnd (opening + k) (offset + k) = (place.errorAtEnd opening offset).shift k := by
  cases place with
  | escaped quote => simp only [Literal.shift, Literal.errorAtEnd, Error.shift, Nat.add_right_comm]
  | _ => rfl

theorem closeAction_shift (k opening start offset : Nat) (place : Literal) (taken s : List Char) :
    closeAction (opening + k) (start + k) (offset + k) (place.shift k) taken s =
      shifted k (Found.shift k) (closeAction opening start offset place taken s) := by
  induction s generalizing offset place taken with
  | nil => rw [closeAction, closeAction, errorAtEnd_shift]; rfl
  | cons c rest ih =>
    have houtside : place.shift k = .outside ↔ place = .outside := by cases place <;> simp [Literal.shift]
    have hline : (place.shift k).endsWithLine = place.endsWithLine := by cases place <;> rfl
    rw [closeAction, closeAction]
    simp only [houtside, hline]
    split
    · simp only [shifted, Found.shift, shift, Nat.add_right_comm]
    · split
      · rfl
      · rw [next_shift, Nat.add_right_comm, ih]

theorem closeComment_shift (k opening offset : Nat) (s : List Char) :
    closeComment (opening + k) (offset + k) s = shifted k (Found.shift k) (closeComment opening offset s) := by
  unfold closeComment
  split
  · rfl
  · dsimp only
    split
    · simp only [shifted, Found.shift, shift, Nat.add_right_comm]
    · split
      · simp only [shifted, Found.shift, shift, Nat.add_right_comm]
      · simp only [shifted, Error.shift, Nat.add_right_comm]

theorem close_shift (k opening offset : Nat) (s : List Char) :
    close (opening + k) (offset + k) s = shifted k (Found.shift k) (close opening offset s) := by
  unfold close
  split
  · rw [Nat.add_right_comm, closeComment_shift]
  · exact closeAction_shift k opening offset offset .outside [] s

/-- Of a source that begins further on come the same items and errors, further on. -/
theorem scan_shift (k offset : Nat) (trims : Bool) (s : List Char) :
    scan (offset + k) trims s = shifted k (List.map (shift k)) (scan offset trims s) := by
  induction hn : s.length using Nat.strongRecOn generalizing offset trims s with
  | ind n ih =>
    cases hcut : cutAt '{' '{' s with
    | none =>
      rw [scan_of_none hcut, scan_of_none hcut, shifted, ofText]
      split <;> rfl
    | some cut =>
      obtain ⟨before, after⟩ := cut
      rw [scan_of_some hcut, scan_of_some hcut, Nat.add_right_comm offset, Nat.add_right_comm (offset + utf8Length before),
        close_shift]
      cases hclose : close (offset + utf8Length before)
          (offset + utf8Length before + if (leftMarker after).1 then 4 else 2) (leftMarker after).2 with
      | error e => rfl
      | ok found =>
        have hshorter : found.rest.length < n := by
          have hrest := length_rest_close hclose
          have hmarker := length_leftMarker_le after
          have hlength := congrArg List.length (eq_of_cutAt hcut)
          simp only [List.length_append, List.length_cons] at hlength
          omega
        show (scan (found.offset + k) found.trims found.rest).map _ =
          shifted k _ ((scan found.offset found.trims found.rest).map _)
        rw [ih _ hshorter _ _ _ rfl]
        cases scan found.offset found.trims found.rest with
        | error e => rfl
        | ok items =>
          simp only [shifted, Except.map, ofText, List.map_append, List.map_cons]
          split <;> rfl

end Item

end QueryTemplate
