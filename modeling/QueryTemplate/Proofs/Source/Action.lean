import Mathlib.Control.Monad.Basic
import QueryTemplate.Proofs.Action.Passage
import QueryTemplate.Proofs.Source.Scan

/-!
# An action in a source

Splitting a source and reading its actions are done by different means, and agree on where an action ends: whatever the
grammar reads as an action other than a definition is found again between double braces as it stands
(`Item.ofSource_of_action`), between any text without opening braces and any rest.
-/

namespace QueryTemplate

/-- A dash and a blank begin no action. -/
theorem Action.ofBody_ne_ok_of_marker {c : Char} (h : isBlank c = true) (rest : List Char) (a : Action) :
    ofBody ('-' :: c :: rest) ≠ .ok a := by
  have hread : Reader.spacedAction ('-' :: c :: rest) = .miss ('-' :: c :: rest) := by
    simp only [isBlank, Bool.or_eq_true, beq_iff_eq] at h
    rcases h with ((rfl | rfl) | rfl) | rfl <;> rfl
  rw [ofBody, hread]
  exact fun h => by cases h

/-- A slash begins no action. -/
theorem Action.ofBody_ne_ok_of_slash (rest : List Char) (a : Action) : ofBody ('/' :: rest) ≠ .ok a := by
  have hread : Reader.spacedAction ('/' :: rest) = .miss ('/' :: rest) := by rfl
  rw [ofBody, hread]
  exact fun h => by cases h

namespace Item

/-- No left trim marker is seen where an action stands. -/
theorem leftMarker_of_ofBody {b : List Char} {a : Action} (h : Action.ofBody b = .ok a) (t : List Char) :
    leftMarker (b ++ '}' :: '}' :: t) = (false, b ++ '}' :: '}' :: t) := by
  rcases leftMarker_cases (b ++ '}' :: '}' :: t) with ⟨c, rest, hblank, hb, -⟩ | hnone
  · match b, h, hb with
    | [_], _, hb =>
      cases hb
      cases hblank
    | _ :: _ :: b, h, hb =>
      cases hb
      exact absurd h (Action.ofBody_ne_ok_of_marker hblank b a)
  · exact hnone

/-- What stands where an action does is no comment. -/
theorem not_comment_of_ofBody {b : List Char} {a : Action} (h : Action.ofBody b = .ok a) (t : List Char) :
    ['/', '*'].isPrefixOf (b ++ '}' :: '}' :: t) = false := by
  match b, h with
  | [], _ => rfl
  | x :: b, h =>
    have hslash : x ≠ '/' := by
      rintro rfl
      exact Action.ofBody_ne_ok_of_slash b a h
    simp [List.isPrefixOf, Ne.symm hslash]

/-- No right trim marker is seen after a text that does not end with a dash. -/
theorem bodyOf_reverse {b : List Char} (h : b.getLast? ≠ some '-') : bodyOf b.reverse = (b, false) := by
  unfold bodyOf
  split
  · rename_i dash c before hb
    have hdash : dash ≠ '-' := by
      rintro rfl
      rw [← List.head?_reverse, hb] at h
      exact h rfl
    rw [if_neg fun hmarker => hdash hmarker.1, ← hb, List.reverse_reverse]
  · rw [List.reverse_reverse]

/-- The end of an action is found at the closing braces behind its body. -/
theorem close_of_enclosable {b : List Char} (hb : Enclosable b) {t : List Char}
    (hcomment : ['/', '*'].isPrefixOf (b ++ '}' :: '}' :: t) = false) (opening offset : Nat) :
    close opening offset (b ++ '}' :: '}' :: t) = .ok ⟨.action offset b, offset + utf8Length b + 2, t, false⟩ := by
  rw [close, if_neg (by rw [hcomment]; decide), hb.passes, List.append_nil, closeAction, if_pos ⟨rfl, rfl, rfl⟩,
    bodyOf_reverse hb.noDash]
  rfl

/-- What is read as an action is found as an action. If a body is an action that is no definition, then a source in which
it stands between double braces, behind a text up to the first opening braces, splits into this text, if there is any,
the action with exactly this body at its offset, and what the rest of the source splits into by itself, further on. If
the rest does not split, the error is the same, further on. The text and the rest keep their blanks: no trim marker is
seen on either side of the body. -/
theorem ofSource_of_action {b : List Char} {a : Action} (hbody : Action.ofBody b = .ok a)
    (hdefinition : ∀ word, a ≠ .definition word) {before : List Char} (hfirst : ¬['{', '{'] <:+: before ++ ['{'])
    (rest : List Char) :
    ofSource (before ++ ['{', '{'] ++ b ++ ['}', '}'] ++ rest) =
      match ofSource rest with
      | .ok items => .ok (ofText before ++ .action (utf8Length before + 2) b ::
          items.map (shift (utf8Length (before ++ ['{', '{'] ++ b ++ ['}', '}']))))
      | .error e => .error (e.shift (utf8Length (before ++ ['{', '{'] ++ b ++ ['}', '}']))) := by
  have hsource : before ++ ['{', '{'] ++ b ++ ['}', '}'] ++ rest =
      before ++ '{' :: '{' :: (b ++ '}' :: '}' :: rest) := by
    simp
  have hoffset : utf8Length (before ++ ['{', '{'] ++ b ++ ['}', '}']) = utf8Length before + 2 + utf8Length b + 2 := by
    simp only [utf8Length_append, Nat.add_assoc]
    rfl
  have hcut : cutAt '{' '{' (before ++ '{' :: '{' :: (b ++ '}' :: '}' :: rest)) =
      some (before, b ++ '}' :: '}' :: rest) :=
    cutAt_eq_some_iff.mpr ⟨rfl, hfirst⟩
  have hrest : scan (utf8Length before + 2 + utf8Length b + 2) false rest =
      shifted (utf8Length before + 2 + utf8Length b + 2)
        (List.map (shift (utf8Length before + 2 + utf8Length b + 2))) (ofSource rest) := by
    rw [ofSource, ← scan_shift, Nat.zero_add]
  rw [hsource, hoffset, ofSource, scan_of_some hcut, leftMarker_of_ofBody hbody rest, Nat.zero_add]
  simp only [Bool.false_eq_true, if_false]
  rw [close_of_enclosable (Enclosable.of_ofBody hbody hdefinition) (not_comment_of_ofBody hbody rest)]
  show (scan (utf8Length before + 2 + utf8Length b + 2) false rest).map _ = _
  rw [hrest]
  cases ofSource rest <;> rfl

/-- A body with the closing braces, quotes and a dash in its literals, behind a text that ends with a brace and a blank, and
before a rest that ends with an action of its own. -/
theorem ofSource_of_action_with_literals :
    Action.ofBody "len \"\x7d\x7d\\\"'\" '\x7d' `-` -3".toList =
        .ok (.output ⟨[], false, [[.function "len", .string "\x7d\x7d\"'", .number "'\x7d'" (.int 125), .string "-",
          .number "-3" (.int (-3))]]⟩) ∧
      ofSource ("a \x7b ".toList ++ ['{', '{'] ++ "len \"\x7d\x7d\\\"'\" '\x7d' `-` -3".toList ++ ['}', '}'] ++ " -{{ .B -}} ".toList) =
        .ok [.text "a \x7b ".toList, .action 6 "len \"\x7d\x7d\\\"'\" '\x7d' `-` -3".toList, .text " -".toList,
          .action 34 " .B ".toList] :=
  have hbody : Action.ofBody "len \"\x7d\x7d\\\"'\" '\x7d' `-` -3".toList =
      .ok (.output ⟨[], false, [[.function "len", .string "\x7d\x7d\"'", .number "'\x7d'" (.int 125), .string "-",
        .number "-3" (.int (-3))]]⟩) := by
    decide +kernel
  have hrest : ofSource " -{{ .B -}} ".toList = .ok [.text " -".toList, .action 4 " .B ".toList] := by decide +kernel
  ⟨hbody, (ofSource_of_action hbody (fun _ h => by cases h) (by decide) _).trans (by rw [hrest]; decide +kernel)⟩

end Item

end QueryTemplate
