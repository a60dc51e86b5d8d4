import QueryTemplate.Proofs.Source.Layout
import QueryTemplate.Proofs.Text.Boundary

/-!
# Where a source fails to split

An error of the splitting points at a boundary between two characters of the source, or at one of its ends, with one
exception: behind a backslash inside quotes the search for the end of an action expects a character, and where the source
ends instead, the error points one byte behind its end (`Item.pointsInto_of_scan`).
-/

namespace QueryTemplate

/-- The error points at a boundary of the source, or one byte behind a source that ends with a backslash. -/
inductive Error.PointsInto (source : List Char) : Error → Prop where
  | boundary {offset : Nat} (cause : SyntaxError) : IsBoundary source offset → PointsInto source (.parse offset cause)
  | behind : source.getLast? = some '\\' → PointsInto source (.parse (utf8Length source + 1) .unterminatedString)

namespace Item

/-- What is known about a place inside an action from the part of the source before it. -/
def Literal.Fits (front source : List Char) : Literal → Prop
  | .escaped _ => front.getLast? = some '\\'
  | .raw opening => IsBoundary source opening
  | _ => True

/-- The next place fits the source if the place before does. -/
theorem Literal.Fits.next {front rest source : List Char} {c : Char} {place : Literal} (hsource : source = front ++ c :: rest)
    (h : place.Fits front source) : (place.next (utf8Length front) c).Fits (front ++ [c]) source := by
  cases place with
  | outside =>
    simp only [Literal.next]
    split
    · trivial
    · split
      · exact hsource ▸ isBoundary_append front (c :: rest)
      · trivial
  | quoted quote =>
    simp only [Literal.next]
    split
    · rename_i hslash
      simp [Literal.Fits, hslash]
    · split <;> trivial
  | escaped quote => trivial
  | raw opening =>
    simp only [Literal.next]
    split
    · trivial
    · exact h

/-- An action without an end gives an error that points into the source. -/
theorem pointsInto_of_closeAction {front source s : List Char} {opening start : Nat} {place : Literal} {taken : List Char}
    {e : Error} (hsource : source = front ++ s) (hopening : IsBoundary source opening) (hplace : place.Fits front source)
    (h : closeAction opening start (utf8Length front) place taken s = .error e) : e.PointsInto source := by
  induction s generalizing front place taken with
  | nil =>
    cases h
    rw [List.append_nil] at hsource
    subst hsource
    cases place with
    | outside => exact .boundary _ hopening
    | quoted quote => exact .boundary _ (isBoundary_end source)
    | escaped quote => exact .behind hplace
    | raw quote => exact .boundary _ hplace
  | cons c rest ih =>
    rw [closeAction] at h
    split at h
    · cases h
    · split at h
      · cases h
        exact .boundary _ (hsource ▸ isBoundary_append front (c :: rest))
      · have hoffset : utf8Length front + c.utf8Size = utf8Length (front ++ [c]) := by simp
        rw [hoffset] at h
        exact ih (by simp [hsource]) (hplace.next hsource) h

/-- So does a comment without an end. -/
theorem pointsInto_of_closeComment {front source s : List Char} {opening : Nat} {e : Error} (hsource : source = front ++ s)
    (hopening : IsBoundary source opening) (h : closeComment opening (utf8Length front) s = .error e) :
    e.PointsInto source := by
  unfold closeComment at h
  split at h
  · cases h
    exact .boundary _ hopening
  · rename_i inside after hcut
    dsimp only at h
    split at h
    · cases h
    · split at h
      · cases h
      · cases h
        have hended : source = (front ++ inside ++ ['*', '/']) ++ after := by
          rw [hsource, eq_of_cutAt hcut]
          simp
        have hoffset : utf8Length front + utf8Length inside + 2 = utf8Length (front ++ inside ++ ['*', '/']) := by
          simp only [utf8Length_append]
          rfl
        rw [hoffset, hended]
        exact .boundary _ (isBoundary_append _ after)

/-- Whatever is not closed after its braces, the error points into the source. -/
theorem pointsInto_of_close {front source s : List Char} {opening : Nat} {e : Error} (hsource : source = front ++ s)
    (hopening : IsBoundary source opening) (h : close opening (utf8Length front) s = .error e) : e.PointsInto source := by
  unfold close at h
  split at h
  · rename_i hcomment
    obtain ⟨t, rfl⟩ := List.isPrefixOf_iff_prefix.mp hcomment
    have hoffset : utf8Length front + 2 = utf8Length (front ++ ['/', '*']) := by
      rw [utf8Length_append]
      rfl
    rw [hoffset] at h
    exact pointsInto_of_closeComment (by simp [hsource]) hopening h
  · have houtside : Literal.outside.Fits front source := trivial
    exact pointsInto_of_closeAction hsource hopening houtside h

/-- What stands behind opening braces and their trim marker, with the number of bytes of the braces and the marker. -/
theorem leftMarker_split (after : List Char) :
    ∃ braces, '{' :: '{' :: after = braces ++ (leftMarker after).2 ∧
      utf8Length braces = if (leftMarker after).1 then 4 else 2 := by
  rcases leftMarker_cases after with ⟨c, rest, hblank, rfl, hmarker⟩ | hmarker <;> rw [hmarker]
  · refine ⟨['{', '{', '-', c], rfl, ?_⟩
    simp only [utf8Length_cons, utf8Length_nil, utf8Size_of_isBlank hblank]
    rfl
  · exact ⟨['{', '{'], rfl, rfl⟩

/-- The errors of splitting the rest of a source point into the source. -/
theorem pointsInto_of_scan {front source s : List Char} {trims : Bool} {e : Error} (hsource : source = front ++ s)
    (h : scan (utf8Length front) trims s = .error e) : e.PointsInto source := by
  induction hn : s.length using Nat.strongRecOn generalizing front trims s with
  | ind n ih =>
    cases hcut : cutAt '{' '{' s with
    | none =>
      rw [scan_of_none hcut] at h
      cases h
    | some cut =>
      obtain ⟨before, after⟩ := cut
      have hs := eq_of_cutAt hcut
      rw [scan_of_some hcut, ← utf8Length_append] at h
      split at h
      · rename_i hclose
        cases h
        obtain ⟨braces, hbraces, hlength⟩ := leftMarker_split after
        rw [← hlength, ← utf8Length_append] at hclose
        refine pointsInto_of_close (by rw [hsource, hs, hbraces]; simp) ?_ hclose
        rw [hsource, hs, ← List.append_assoc]
        exact isBoundary_append (front ++ before) _
      · rename_i found hclose
        obtain ⟨span, hspan, -, -, -, -, -, hoffset⟩ := span_of_close hclose
        have hshorter : found.rest.length < n := by
          have hrest := length_rest_close hclose
          have hmarker := length_leftMarker_le after
          have hlength := congrArg List.length hs
          simp only [List.length_append, List.length_cons] at hlength
          omega
        rw [hoffset, ← utf8Length_append] at h
        cases hrest : scan (utf8Length (front ++ before ++ span)) found.trims found.rest with
        | error e' =>
          rw [hrest] at h
          cases h
          exact ih _ hshorter (by rw [hsource, hs, hspan]; simp) hrest rfl
        | ok items =>
          rw [hrest] at h
          cases h

end Item

end QueryTemplate
