import QueryTemplate.Error
import QueryTemplate.Text.Blank
import QueryTemplate.Text.Utf8

/-!
# The items of a source

A source is text with actions and comments between double braces. `Item.ofSource` splits it into these items, in order.
A brace pair may carry a trim marker, a dash with a blank on its inner side, which removes the blanks of the text next
to it. Inside an action the closing braces count only outside string, character and raw string literals.
-/

namespace QueryTemplate

/-- A piece of a source. -/
inductive Item where
  /-- Text between actions, trimmed; never empty. -/
  | text (s : List Char)
  /-- What stands inside a comment. -/
  | comment (s : List Char)
  /-- What stands between the braces of an action, without trim markers, and the offset at which it begins. -/
  | action (offset : Nat) (body : List Char)
deriving DecidableEq

/-- Splits a text at the first place where `a` is followed by `b`: what stands before the two, and what stands after
them. -/
def cutAt (a b : Char) : List Char → Option (List Char × List Char)
  | x :: y :: rest =>
    if x = a ∧ y = b then some ([], rest)
    else (cutAt a b (y :: rest)).map fun (before, after) => (x :: before, after)
  | _ => none

/-- A cut loses nothing but the two characters. -/
theorem eq_of_cutAt {a b : Char} {s before after : List Char} (h : cutAt a b s = some (before, after)) :
    s = before ++ a :: b :: after := by
  fun_induction cutAt a b s generalizing before after with
  | case1 x y rest hxy =>
    obtain ⟨rfl, rfl⟩ := hxy
    cases h
    rfl
  | case2 x y rest hxy ih =>
    obtain ⟨⟨p, q⟩, hpq, he⟩ := Option.map_eq_some_iff.1 h
    cases he
    rw [ih hpq]
    rfl
  | case3 => cases h

namespace Item

/-- An action or comment as it was found: its item, the source after its closing braces with the offset of that place,
and whether the braces carry a trim marker. -/
structure Found where
  item : Item
  offset : Nat
  rest : List Char
  trims : Bool

/-- Where a place inside an action stands with respect to literals. -/
inductive Literal where
  | outside
  | quoted (quote : Char)
  /-- After a backslash inside quotes. -/
  | escaped (quote : Char)
  /-- Inside a raw string, whose opening quote stands at an offset. -/
  | raw (opening : Nat)
deriving DecidableEq

namespace Literal

/-- The place after one more character, which stands at an offset and does not end the action. -/
def next (offset : Nat) (c : Char) : Literal → Literal
  | .outside => if c = '"' ∨ c = '\'' then .quoted c else if c = '`' then .raw offset else .outside
  | .quoted quote => if c = '\\' then .escaped quote else if c = quote then .outside else .quoted quote
  | .escaped quote => .quoted quote
  | .raw opening => if c = '`' then .outside else .raw opening

/-- Whether a line feed may not stand at a place. -/
def endsWithLine : Literal → Bool
  | .quoted _ => true
  | _ => false

/-- Why an action whose braces open at an offset is malformed if the source ends at a place in it. A backslash there
takes with it the character that is missing. -/
def errorAtEnd (opening offset : Nat) : Literal → Error
  | .outside => .parse opening .unclosedAction
  | .quoted _ => .parse offset .unterminatedString
  | .escaped _ => .parse (offset + 1) .unterminatedString
  | .raw quote => .parse quote .unterminatedRawString

end Literal

/-- The body of an action from its reversed characters, and whether a right trim marker ends it. The dash of the marker
is not part of the body. -/
def bodyOf : List Char → List Char × Bool
  | dash :: c :: before =>
    if dash = '-' ∧ isBlank c then ((c :: before).reverse, true) else ((dash :: c :: before).reverse, false)
  | taken => (taken.reverse, false)

/-- Finds the end of an action. `opening` is the offset of its opening braces, `start` that of its body and `offset`
that of the place reached; `taken` holds the body so far in reverse. -/
def closeAction (opening start offset : Nat) (place : Literal) (taken : List Char) : List Char → Except Error Found
  | [] => .error (place.errorAtEnd opening offset)
  | c :: rest =>
    if place = .outside ∧ c = '}' ∧ rest.head? = some '}' then
      .ok ⟨.action start (bodyOf taken).1, offset + 2, rest.tail, (bodyOf taken).2⟩
    else if place.endsWithLine ∧ c = '\n' then .error (.parse offset .unterminatedString)
    else closeAction opening start (offset + c.utf8Size) (place.next offset c) (c :: taken) rest

/-- Finds the end of a comment whose text begins at an offset. Nothing but a trim marker may stand between the end of
the text and the closing braces. -/
def closeComment (opening offset : Nat) (s : List Char) : Except Error Found :=
  match cutAt '*' '/' s with
  | none => .error (.parse opening .unclosedComment)
  | some (inside, after) =>
    let ended := offset + utf8Length inside + 2
    if ['}', '}'].isPrefixOf after then .ok ⟨.comment inside, ended + 2, after.drop 2, false⟩
    else if (after.head?.any isBlank) ∧ ['-', '}', '}'].isPrefixOf after.tail then
      .ok ⟨.comment inside, ended + 4, after.drop 4, true⟩
    else .error (.parse ended .commentNotAlone)

/-- Finds the end of the action or comment that begins at an offset, after its opening braces and their trim marker. -/
def close (opening offset : Nat) (s : List Char) : Except Error Found :=
  if ['/', '*'].isPrefixOf s then closeComment opening (offset + 2) (s.drop 2)
  else closeAction opening offset offset .outside [] s

/-- Splits off a left trim marker, a dash and one blank: whether it is there, and what stands after it. -/
def leftMarker : List Char → Bool × List Char
  | dash :: c :: rest => if dash = '-' ∧ isBlank c then (true, rest) else (false, dash :: c :: rest)
  | s => (false, s)

/-- The item of a text, if any of it is left. -/
def ofText (s : List Char) : List Item :=
  if s.isEmpty then [] else [.text s]

/-- What follows the end of an action is part of what followed its beginning. -/
theorem length_rest_closeAction {opening start offset : Nat} {place : Literal} {taken s : List Char} {found : Found}
    (h : closeAction opening start offset place taken s = .ok found) : found.rest.length ≤ s.length := by
  induction s generalizing offset place taken with
  | nil => cases h
  | cons c rest ih =>
    rw [closeAction] at h
    split at h
    · cases h
      simp only [List.length_tail, List.length_cons]
      omega
    · split at h
      · cases h
      · have := ih h
        simp only [List.length_cons]
        omega

/-- What follows the end of a comment is part of what followed its beginning. -/
theorem length_rest_closeComment {opening offset : Nat} {s : List Char} {found : Found}
    (h : closeComment opening offset s = .ok found) : found.rest.length ≤ s.length := by
  unfold closeComment at h
  split at h
  · cases h
  · rename_i inside after hc
    have hs := congrArg List.length (eq_of_cutAt hc)
    simp only [List.length_append, List.length_cons] at hs
    dsimp only at h
    split at h
    · cases h
      simp only [List.length_drop]
      omega
    · split at h
      · cases h
        simp only [List.length_drop]
        omega
      · cases h

/-- What follows an action or comment is part of what followed its beginning. -/
theorem length_rest_close {opening offset : Nat} {s : List Char} {found : Found}
    (h : close opening offset s = .ok found) : found.rest.length ≤ s.length := by
  unfold close at h
  split at h
  · have := length_rest_closeComment h
    simp only [List.length_drop] at this
    omega
  · exact length_rest_closeAction h

/-- What follows a left trim marker is part of what followed the braces. -/
theorem length_leftMarker_le (s : List Char) : (leftMarker s).2.length ≤ s.length := by
  unfold leftMarker
  split
  · split
    · simp only [List.length_cons]
      omega
    · exact Nat.le_refl _
  · exact Nat.le_refl _

/-- The items of the part of a source that begins at an offset, the first text losing its leading blanks if `trims`. -/
def scan (offset : Nat) (trims : Bool) (s : List Char) : Except Error (List Item) :=
  match _hcut : cutAt '{' '{' s with
  | none => .ok (ofText (if trims then trimStart s else s))
  | some (before, after) =>
    let opening := offset + utf8Length before
    let marked := (leftMarker after).1
    let start := if trims then trimStart before else before
    let text := if marked then trimEnd start else start
    match _hclose : close opening (if marked then opening + 4 else opening + 2) (leftMarker after).2 with
    | .error e => .error e
    | .ok found => (scan found.offset found.trims found.rest).map fun items => ofText text ++ found.item :: items
termination_by s.length
decreasing_by
  have hrest := length_rest_close _hclose
  have hmarker := length_leftMarker_le after
  have hlength := congrArg List.length (eq_of_cutAt _hcut)
  simp only [List.length_append, List.length_cons] at hlength
  omega

/-- The items of a source, or why it does not split. -/
def ofSource (source : List Char) : Except Error (List Item) :=
  scan 0 false source

end Item

end QueryTemplate
