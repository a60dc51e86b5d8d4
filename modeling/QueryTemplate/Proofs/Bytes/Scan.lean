import QueryTemplate.Proofs.Bytes.Action
import QueryTemplate.Proofs.Source.Fault

/-!
# Splitting a source in bytes

The loop over a source, with offsets in bytes where `Item.scan` has texts. Its twin is `Item.scan` (`Bytes.scan_eq`).
-/

namespace QueryTemplate

namespace Bytes

open Checked

/-- The offset at which two characters first stand one after the other in a text. -/
def findPair? (a b : Char) (s : List Char) : Option Nat :=
  (cutAt a b s).map fun (before, _) => utf8Length before

/-- The comment that begins at an offset. -/
def closeComment (source : List Char) (opening start : Nat) : Checked (Item × Nat × Bool) := do
  let rest ← require (fromByte? source (start + 2))
  match findPair? '*' '/' rest with
  | none => outcome (.error (.parse opening .unclosedComment))
  | some length =>
    let inside ← require (betweenBytes? source (start + 2) (start + 2 + length))
    let after := start + 2 + length + 2
    let tail ← require (fromByte? source after)
    if ['}', '}'].isPrefixOf tail then return (.comment inside, after + 2, false)
    else if tail.head?.any isBlank then
      let marker ← require (fromByte? tail 1)
      if ['-', '}', '}'].isPrefixOf marker then return (.comment inside, after + 4, true)
      else outcome (.error (.parse after .commentNotAlone))
    else outcome (.error (.parse after .commentNotAlone))

/-- The action or comment that begins at an offset. -/
def close (source : List Char) (opening start : Nat) : Checked (Item × Nat × Bool) := do
  let inside ← require (fromByte? source start)
  if ['/', '*'].isPrefixOf inside then closeComment source opening start else closeAction source opening start

/-- One round of the loop over a source: a text and the action or comment behind it, with the offset at which the next round
begins, or the last text. -/
def scanStep (source : List Char) (cursor : Nat) (trims : Bool) : Checked (List Item × Option (Nat × Bool)) := do
  let rest ← require (fromByte? source cursor)
  let opening? := (findPair? '{' '{' rest).map (cursor + ·)
  let text ← require (betweenBytes? source cursor (opening?.getD (utf8Length source)))
  let text := if trims then trimStart text else text
  match opening? with
  | none => return (Item.ofText text, none)
  | some opening =>
    let behind ← require (fromByte? source (opening + 2))
    let marked := (Item.leftMarker behind).1
    let text := if marked then trimEnd text else text
    let start := if marked then opening + 4 else opening + 2
    let (item, next, trims) ← close source opening start
    return (Item.ofText text ++ [item], some (next, trims))

/-! ## Comments -/

theorem findPair?_of_some {a b : Char} {s before after : List Char} (h : cutAt a b s = some (before, after)) :
    findPair? a b s = some (utf8Length before) := by
  rw [findPair?, h]
  rfl

theorem findPair?_of_none {a b : Char} {s : List Char} (h : cutAt a b s = none) : findPair? a b s = none := by
  rw [findPair?, h]
  rfl

/-- A pair of characters of one byte each cuts a source in bytes where it cuts it in characters. -/
theorem slices_of_cutAt {a b : Char} (ha : a.utf8Size = 1) (hb : b.utf8Size = 1) {source front s before after : List Char}
    (hsource : source = front ++ s) (h : cutAt a b s = some (before, after)) :
    betweenBytes? source (utf8Length front) (utf8Length front + utf8Length before) = some before ∧
      fromByte? source (utf8Length front + utf8Length before + 2) = some after := by
  have hcut : source = front ++ before ++ (a :: b :: after) := by rw [hsource, eq_of_cutAt h, List.append_assoc]
  constructor
  · rw [← utf8Length_append, hcut]
    exact betweenBytes?_append _ _ _
  · have hpair : utf8Length front + utf8Length before + 2 = utf8Length (front ++ before ++ [a, b]) := by
      simp only [utf8Length_append, utf8Length_cons, utf8Length_nil, ha, hb]
    have hwhole : source = (front ++ before ++ [a, b]) ++ after := by rw [hcut, List.append_assoc _ [a, b]]; rfl
    rw [hpair, hwhole, fromByte?_append]

/-- A blank takes one byte. -/
theorem fromByte?_of_isBlank {c : Char} (hc : isBlank c = true) (s : List Char) : fromByte? (c :: s) 1 = some s := by
  have hone : utf8Length [c] = 1 := by
    rw [utf8Length_cons, Item.utf8Size_of_isBlank hc]
    rfl
  rw [← hone]
  exact fromByte?_append [c] s

/-- A comment is found in bytes where it is found in characters. -/
theorem closeComment_eq {source base s : List Char} (hsource : source = base ++ ['/', '*'] ++ s) (opening : Nat) :
    closeComment source opening (utf8Length base) =
      outcome ((Item.closeComment opening (utf8Length base + 2) s).map foundAt) := by
  have hstart : utf8Length base + 2 = utf8Length (base ++ ['/', '*']) := by
    rw [utf8Length_append]
    rfl
  have hrest : fromByte? source (utf8Length base + 2) = some s := by rw [hstart, hsource, fromByte?_append]
  rw [closeComment, hrest, require_some, outcome_ok_bind, Item.closeComment]
  cases hcut : cutAt '*' '/' s with
  | none =>
    rw [findPair?_of_none hcut]
    rfl
  | some cut =>
    obtain ⟨inside, after⟩ := cut
    obtain ⟨hinside, htail⟩ := slices_of_cutAt rfl rfl hsource hcut
    rw [← hstart] at hinside htail
    rw [findPair?_of_some hcut]
    dsimp only
    rw [hinside, require_some, outcome_ok_bind, htail, require_some, outcome_ok_bind]
    split
    · rfl
    · by_cases hblank : after.head?.any isBlank = true
      · obtain ⟨c, hhead, hc⟩ := (Option.any_eq_true isBlank after.head?).mp hblank
        obtain ⟨tail, rfl⟩ := List.head?_eq_some_iff.mp hhead
        rw [if_pos hblank, fromByte?_of_isBlank hc, require_some, outcome_ok_bind]
        by_cases hcloses : ['-', '}', '}'].isPrefixOf tail = true
        · rw [if_pos hcloses, if_pos ⟨hblank, hcloses⟩]
          rfl
        · rw [if_neg hcloses, if_neg fun h => hcloses h.2]
          rfl
      · rw [if_neg hblank, if_neg fun h => hblank h.1]
        rfl

/-- What stands behind opening braces is found in bytes as in characters. -/
theorem close_eq {source base s : List Char} (hsource : source = base ++ s) (opening : Nat) :
    close source opening (utf8Length base) = outcome ((Item.close opening (utf8Length base) s).map foundAt) := by
  have hinside : fromByte? source (utf8Length base) = some s := by rw [hsource, fromByte?_append]
  rw [close, hinside, require_some, outcome_ok_bind, Item.close]
  split
  · rename_i hcomment
    obtain ⟨t, rfl⟩ := List.isPrefixOf_iff_prefix.mp hcomment
    exact closeComment_eq (by rw [hsource, List.append_assoc]; rfl) opening
  · exact closeAction_eq hsource opening

/-! ## The loop -/

/-- One round of the loop splits the source at the next opening braces. -/
theorem scanStep_of_none {source front s : List Char} (hsource : source = front ++ s) (h : cutAt '{' '{' s = none)
    (trims : Bool) :
    scanStep source (utf8Length front) trims = outcome (.ok (Item.ofText (Item.trimmed trims false s), none)) := by
  have htext : betweenBytes? source (utf8Length front) (utf8Length source) = some s := by
    have hpart := betweenBytes?_append front s []
    rwa [List.append_nil, ← hsource] at hpart
  rw [scanStep, hsource, fromByte?_append, ← hsource, require_some, outcome_ok_bind, findPair?_of_none h]
  dsimp only [Option.map_none, Option.getD_none]
  rw [htext, require_some, outcome_ok_bind]
  rfl

theorem scanStep_of_some {source front s before after : List Char} (hsource : source = front ++ s)
    (h : cutAt '{' '{' s = some (before, after)) (trims : Bool) :
    scanStep source (utf8Length front) trims =
      outcome ((Item.close (utf8Length front + utf8Length before)
          (utf8Length front + utf8Length before + if (Item.leftMarker after).1 then 4 else 2) (Item.leftMarker after).2).map
        fun found => (Item.ofText (Item.trimmed trims (Item.leftMarker after).1 before) ++ [found.item],
          some (found.offset, found.trims))) := by
  have hcut : source = front ++ before ++ ('{' :: '{' :: after) := by rw [hsource, eq_of_cutAt h, List.append_assoc]
  obtain ⟨htext, hbehind⟩ := slices_of_cutAt rfl rfl hsource h
  obtain ⟨braces, hbraces, hlength⟩ := Item.leftMarker_split after
  have hwhole : source = (front ++ before ++ braces) ++ (Item.leftMarker after).2 := by
    rw [hcut, hbraces, List.append_assoc _ braces]
  have hstart : (if (Item.leftMarker after).1 then utf8Length front + utf8Length before + 4
      else utf8Length front + utf8Length before + 2) = utf8Length (front ++ before ++ braces) := by
    rw [utf8Length_append, utf8Length_append, hlength]
    split <;> rfl
  have hrest : fromByte? source (utf8Length front) = some s := by rw [hsource, fromByte?_append]
  rw [scanStep, hrest, require_some, outcome_ok_bind, findPair?_of_some h]
  dsimp only [Option.map_some, Option.getD_some]
  rw [htext, require_some, outcome_ok_bind, hbehind, require_some, outcome_ok_bind]
  rw [hstart, close_eq hwhole, ← hlength, ← utf8Length_append, ← utf8Length_append]
  cases Item.close (utf8Length (front ++ before)) (utf8Length (front ++ before ++ braces)) (Item.leftMarker after).2 <;> rfl

/-- A round that is followed by another leaves the next one less of the source. -/
theorem lt_of_scanStep {source : List Char} {cursor next : Nat} {trims trims' : Bool} {items : List Item}
    (h : scanStep source cursor trims = outcome (.ok (items, some (next, trims')))) :
    cursor < next ∧ next ≤ utf8Length source := by
  cases hrest : fromByte? source cursor with
  | none =>
    rw [scanStep, hrest] at h
    cases h
  | some s =>
    obtain ⟨front, hsource, rfl⟩ := fromByte?_eq_some_iff.mp hrest
    cases hcut : cutAt '{' '{' s with
    | none =>
      rw [scanStep_of_none hsource hcut] at h
      cases h
    | some cut =>
      obtain ⟨before, after⟩ := cut
      rw [scanStep_of_some hsource hcut] at h
      cases hclose : Item.close (utf8Length front + utf8Length before)
          (utf8Length front + utf8Length before + if (Item.leftMarker after).1 then 4 else 2) (Item.leftMarker after).2 with
      | error e =>
        rw [hclose] at h
        cases h
      | ok found =>
        rw [hclose] at h
        cases h
        obtain ⟨span, hspan, ⟨tail, htail⟩, -, -, -, -, hoffset⟩ := Item.span_of_close hclose
        have hbraces : 2 ≤ utf8Length span := by
          rw [← htail, utf8Length_append]
          exact Nat.le_add_right _ _
        rw [hoffset, hsource, eq_of_cutAt hcut, hspan]
        simp only [utf8Length_append]
        omega

/-- The items of the part of a source that begins at an offset. -/
def scan (source : List Char) (cursor : Nat) (trims : Bool) : Checked (List Item) :=
  match _h : scanStep source cursor trims with
  | none => none
  | some (.error e) => outcome (.error e)
  | some (.ok (items, none)) => outcome (.ok items)
  | some (.ok (items, some (next, trims))) => do
    let more ← scan source next trims
    return items ++ more
termination_by utf8Length source - cursor
decreasing_by
  have := lt_of_scanStep _h
  omega

theorem scan_of_scanStep {source : List Char} {cursor : Nat} {trims : Bool}
    {x : Except Error (List Item × Option (Nat × Bool))} (h : scanStep source cursor trims = outcome x) :
    scan source cursor trims = outcome x >>= fun
      | (items, none) => outcome (.ok items)
      | (items, some (next, trims)) => do
        let more ← scan source next trims
        return items ++ more := by
  rw [scan]
  split <;> rename_i hstep <;> rw [h] at hstep <;> cases hstep <;> rfl

/-- A source splits in bytes as in characters, and no offset is out of range or inside a character. -/
theorem scan_eq {source front s : List Char} (hsource : source = front ++ s) (trims : Bool) :
    scan source (utf8Length front) trims = outcome (Item.scan (utf8Length front) trims s) := by
  induction hn : s.length using Nat.strongRecOn generalizing front s trims with
  | ind n ih =>
    cases hcut : cutAt '{' '{' s with
    | none =>
      rw [Item.scan_of_none hcut, scan_of_scanStep (scanStep_of_none hsource hcut trims)]
      rfl
    | some cut =>
      obtain ⟨before, after⟩ := cut
      rw [Item.scan_of_some hcut, scan_of_scanStep (scanStep_of_some hsource hcut trims)]
      cases hclose : Item.close (utf8Length front + utf8Length before)
          (utf8Length front + utf8Length before + if (Item.leftMarker after).1 then 4 else 2) (Item.leftMarker after).2 with
      | error e => rfl
      | ok found =>
        obtain ⟨span, hspan, ⟨tail, htail⟩, -, -, -, -, hoffset⟩ := Item.span_of_close hclose
        have hs : s = before ++ span ++ found.rest := by rw [eq_of_cutAt hcut, hspan, List.append_assoc]
        have hshorter : found.rest.length < n := by
          rw [← hn, hs, ← htail]
          simp only [List.length_append, List.length_cons]
          omega
        have hsplit : source = (front ++ before ++ span) ++ found.rest := by rw [hsource, hs]; simp
        have hrest := ih _ hshorter hsplit found.trims rfl
        rw [utf8Length_append, utf8Length_append, ← hoffset] at hrest
        show (scan source found.offset found.trims >>= _) = _
        rw [hrest]
        dsimp only
        cases Item.scan found.offset found.trims found.rest with
        | error e => rfl
        | ok more =>
          simp only [Except.map, outcome_ok_bind, pure_eq, List.append_assoc, List.singleton_append]

end Bytes

end QueryTemplate
