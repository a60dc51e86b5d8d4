import QueryTemplate.Proofs.Outcome
import QueryTemplate.Proofs.Source.Action
import QueryTemplate.Template

/-!
# Actions of one operand

A source that is nothing but an operand between double braces has one action with this operand, if the reader for operands
reads all of the body (`Node.parse_of_literal`), and is malformed if the reader fails on it (`Node.parse_of_malformed`). This is
stated for operands that do not begin like a word, since the words of the grammar come before the operands.
-/

namespace QueryTemplate

namespace Reader

/-! ## Words -/

/-- The words with which an action may begin. -/
def actionWords : List String :=
  ["if", "range", "with", "else", "end", "break", "continue", "template", "define", "block"]

/-- The words that are operands. -/
def operandWords : List String :=
  ["true", "false", "nil"]

/-- A word is missed where no letter stands. -/
theorem keyword_of_not_isAlpha {word : String} (hword : word ∈ actionWords ++ operandWords) {c : Char}
    (hc : c.isAlpha = false) (s : List Char) : (keyword word).Misses (c :: s) := by
  have hletter : ∀ word ∈ actionWords ++ operandWords, word.toList.head?.any Char.isAlpha = true := by decide
  have hfirst := hletter word hword
  have htext : (text word.toList).Misses (c :: s) := by
    rw [misses_text_iff]
    intro hprefix
    cases hletters : word.toList with
    | nil => rw [hletters] at hfirst; cases hfirst
    | cons w ws =>
      rw [hletters, List.cons_prefix_cons] at hprefix
      rw [hletters, List.head?_cons, Option.any_some, hprefix.1, hc] at hfirst
      cases hfirst
  exact htext.andThen _

/-! ## Quotes -/

theorem stringLiteral_misses {c : Char} (hdouble : c ≠ '"') (hraw : c ≠ '`') (s : List Char) :
    stringLiteral.Misses (c :: s) := by
  rw [stringLiteral, misses_firstOf_iff, List.forall_mem_cons, List.forall_mem_singleton]
  exact ⟨Misses.andThen ⟨_, char_of_ne hdouble s⟩ _, Misses.andThen ⟨_, char_of_ne hraw s⟩ _⟩

theorem charConstant_misses {c : Char} (hsingle : c ≠ '\'') (s : List Char) : charConstant.Misses (c :: s) :=
  Misses.andThen ⟨_, char_of_ne hsingle s⟩ _

/-! ## The pipeline of one operand -/

/-- A text that begins with no word of an action, with no blank and with no variables of a pipeline. -/
structure BeginsPipeline (s : List Char) : Prop where
  words : ∀ word ∈ actionWords, (keyword word).Misses s
  blank : blanks s = .done () s
  target : optional targets s = .done none s

/-- No blank is passed over before a character that is none. -/
theorem blanks_of_not_isBlank {c : Char} (hc : isBlank c = false) (s : List Char) : blanks (c :: s) = .done () (c :: s) := by
  have htake : takeWhile isBlank ([] ++ c :: s) = .done [] (c :: s) :=
    takeWhile_append isBlank (by simp) (by simp [hc])
  rw [List.nil_append] at htake
  show (takeWhile isBlank).andThen (fun _ => succeed ()) (c :: s) = _
  rw [andThen_of_done htake]
  rfl

/-- Variables begin with a dollar sign. -/
theorem optional_targets_of_ne {c : Char} (hc : c ≠ '$') (s : List Char) : optional targets (c :: s) = .done none (c :: s) := by
  have hmiss : targets (c :: s) = .miss (c :: s) := andThen_of_miss (andThen_of_miss (char_of_ne hc s))
  rw [optional, hmiss]

/-- A pipeline is read with some depth of parentheses. -/
theorem exists_pipelineOver (s : List Char) : ∃ group, pipeline s = pipelineOver group s := by
  rw [pipeline]
  cases s.length <;> exact ⟨_, rfl⟩

section

variable {s : List Char} (hs : BeginsPipeline s)
include hs

/-- Nothing else is read after an operand that takes the whole text. -/
theorem pipelineOver_of_operand {group : Reader Pipeline} {e : Operand} (h : operandOver group s = .done e []) :
    pipelineOver group s = .done ⟨[], false, [[e]]⟩ [] := by
  have hmore : many (furtherOperandOver group) [] = .done [] [] :=
    many_of_miss (rfl : _ = Reading.miss [])
  have hcommand : commandOver group s = .done [e] [] :=
    (andThen_of_done h).trans ((andThen_of_done hmore).trans rfl)
  have hstages : many (furtherCommandOver group) [] = .done [] [] :=
    many_of_miss (rfl : _ = Reading.miss [])
  exact (andThen_of_done hs.target).trans ((andThen_of_done hcommand).trans ((andThen_of_done hstages).trans rfl))

theorem pipelineOver_of_fail {group : Reader Pipeline} {place : List Char} (h : operandOver group s = .fail place) :
    pipelineOver group s = .fail place :=
  (andThen_of_done hs.target).trans (andThen_of_fail (andThen_of_fail h))

/-- Where none of its words stands an action is a pipeline. -/
theorem action_of_begins : action s = ActionForm.output.reader s := by
  have hmiss : ∀ form ∈ ActionForm.all.dropLast, form.reader.Misses s := by
    intro form hform
    cases form with
    | opening kind =>
      have hword : (keyword kind.keyword).Misses s := hs.words kind.keyword (by cases kind <;> decide)
      exact (hword.andThen _).andThen _
    | otherwise => exact (hs.words "else" (by decide)).andThen _
    | ending => exact (hs.words "end" (by decide)).andThen _
    | breakLoop => exact (hs.words "break" (by decide)).andThen _
    | continueLoop => exact (hs.words "continue" (by decide)).andThen _
    | invocation => exact (hs.words "template" (by decide)).andThen _
    | definition word =>
      have hword : word ∈ actionWords := by
        simp only [ActionForm.all, List.dropLast, List.mem_cons, ActionForm.definition.injEq, reduceCtorEq, false_or,
          List.not_mem_nil, or_false] at hform
        rcases hform with rfl | rfl <;> decide
      exact (hs.words word hword).andThen _
    | output => exact absurd hform (by simp [ActionForm.all])
  have hall : ActionForm.all.map ActionForm.reader =
      ActionForm.all.dropLast.map ActionForm.reader ++ [ActionForm.output.reader] := rfl
  rw [action, hall, firstOf_append_of_miss (List.forall_mem_map.mpr hmiss) (List.cons_ne_nil _ _), firstOf_singleton]

end

/-- A character at which a literal may begin that is no word: no letter, no blank and no dollar sign. -/
structure BeginsLiteral (c : Char) : Prop where
  notAlpha : c.isAlpha = false
  notBlank : isBlank c = false
  notDollar : c ≠ '$'

theorem BeginsLiteral.words {c : Char} (hc : BeginsLiteral c) (s : List Char) :
    ∀ word ∈ operandWords, (keyword word).Misses (c :: s) :=
  fun _ hword => keyword_of_not_isAlpha (List.mem_append_right _ hword) hc.notAlpha s

theorem BeginsLiteral.beginsPipeline {c : Char} (hc : BeginsLiteral c) (s : List Char) : BeginsPipeline (c :: s) where
  words _ hword := keyword_of_not_isAlpha (List.mem_append_left _ hword) hc.notAlpha s
  blank := blanks_of_not_isBlank hc.notBlank s
  target := optional_targets_of_ne hc.notDollar s

/-! ## Operands by their forms -/

/-- A word that stands for something is read as this. -/
theorem eq_of_constant {α : Type} {word : String} {a b : α} {s rest : List Char} (h : constant word a s = .done b rest) :
    b = a := by
  obtain ⟨_, _, -, hdone⟩ := andThen_eq_done h
  cases hdone
  rfl

/-- A form decides what is read as an operand if it does not miss and the forms before it do. -/
theorem operandOver_of_form {form : OperandForm} (hform : form ∈ OperandForm.all) {group : Reader Pipeline} {s : List Char}
    (before : ∀ other ∈ OperandForm.all.takeWhile (· != form), (other.reader group).Misses s)
    (h : ¬(form.reader group).Misses s) : operandOver group s = form.reader group s :=
  firstOf_map_of_not_misses hform before h

theorem operandOver_of_done (form : OperandForm) (hform : form ∈ OperandForm.all) {group : Reader Pipeline}
    {s rest : List Char} {e : Operand}
    (before : ∀ other ∈ OperandForm.all.takeWhile (· != form), (other.reader group).Misses s)
    (h : form.reader group s = .done e rest) : operandOver group s = .done e rest :=
  (operandOver_of_form hform before (by simp [Misses, h])).trans h

/-- The words of the operands are missed where an operand begins with none of them. -/
theorem misses_bool {s : List Char} (h : ∀ word ∈ operandWords, (keyword word).Misses s) (group : Reader Pipeline) (b : Bool) :
    ((OperandForm.bool b).reader group).Misses s := by
  cases b
  · exact (h "false" (by decide)).andThen _
  · exact (h "true" (by decide)).andThen _

end Reader

namespace Action

open Reader

variable {s : List Char} (hs : BeginsPipeline s)
include hs

/-- A body that an operand takes as a whole is an action with this operand. -/
theorem ofBody_of_operand {e : Operand} (h : ∀ group, operandOver group s = .done e []) :
    ofBody s = .ok (.output ⟨[], false, [[e]]⟩) := by
  obtain ⟨group, hgroup⟩ := exists_pipelineOver s
  have hpipeline : pipeline s = .done ⟨[], false, [[e]]⟩ [] := hgroup.trans (pipelineOver_of_operand hs (h group))
  have haction : action s = .done (.output ⟨[], false, [[e]]⟩) [] :=
    (action_of_begins hs).trans (andThen_of_done hpipeline)
  have hspaced : spacedAction s = .done (.output ⟨[], false, [[e]]⟩) [] := by
    show blanks.andThen (fun _ => action.andThen fun a => blanks.andThen fun _ => succeed a) s = _
    rw [andThen_of_done hs.blank, andThen_of_done haction]
    rfl
  rw [ofBody, hspaced]

/-- A body on which an operand fails is no action. -/
theorem ofBody_of_fail {place : List Char} (h : ∀ group, operandOver group s = .fail place) :
    ofBody s = .error (offsetIn s place, unexpected place) := by
  obtain ⟨group, hgroup⟩ := exists_pipelineOver s
  have hpipeline : pipeline s = .fail place := hgroup.trans (pipelineOver_of_fail hs (h group))
  have haction : action s = .fail place := (action_of_begins hs).trans (andThen_of_fail hpipeline)
  have hspaced : spacedAction s = .fail place := by
    show blanks.andThen (fun _ => action.andThen fun a => blanks.andThen fun _ => succeed a) s = _
    rw [andThen_of_done hs.blank, andThen_of_fail haction]
  rw [ofBody, hspaced]

end Action

/-! ## A source of one action -/

/-- A body between double braces. -/
def braced (b : List Char) : String :=
  String.ofList ('{' :: '{' :: (b ++ ['}', '}']))

/-- A body that is passed over and does not look like a comment or a left trim marker is the only item between its
braces. -/
theorem Item.ofSource_braced {b : List Char} (hb : Enclosable b)
    (hcomment : ['/', '*'].isPrefixOf (b ++ ['}', '}']) = false)
    (hmarker : leftMarker (b ++ ['}', '}']) = (false, b ++ ['}', '}'])) :
    ofSource (braced b).toList = .ok [.action 2 b] := by
  have hcut : cutAt '{' '{' ('{' :: '{' :: (b ++ ['}', '}'])) = some ([], b ++ ['}', '}']) := if_pos ⟨rfl, rfl⟩
  have hclose : close 0 2 (b ++ ['}', '}']) = .ok ⟨.action 2 b, 2 + utf8Length b + 2, [], false⟩ :=
    close_of_enclosable hb hcomment 0 2
  have hrest : scan (2 + utf8Length b + 2) false [] = .ok [] := scan_of_none rfl _ _
  rw [braced, String.toList_ofList, ofSource, scan_of_some hcut, hmarker]
  simp only [utf8Length_nil, Nat.zero_add, Bool.false_eq_true, if_false]
  rw [hclose]
  show (scan (2 + utf8Length b + 2) false []).map _ = _
  rw [hrest]
  rfl

namespace Node

/-- A source that is nothing but a literal has one action with this literal. -/
theorem parse_of_literal {b : List Char} {e : Operand} (hbody : Action.ofBody b = .ok (.output ⟨[], false, [[e]]⟩))
    (he : e.isLiteral = true) : parse (braced b) = .ok [.action ⟨[], false, [[e]]⟩] := by
  have hitems : Item.ofSource (braced b).toList = .ok [.action 2 b] :=
    Item.ofSource_braced (Enclosable.of_ofBody hbody fun _ h => by cases h) (Item.not_comment_of_ofBody hbody [])
      (Item.leftMarker_of_ofBody hbody [])
  have hpiece : Piece.ofItem (.action 2 b) = .ok (.action 2 (.output ⟨[], false, [[e]]⟩)) := by
    rw [Piece.ofItem, hbody]
  have hscope : Scope.afterPipeline 2 .action [rootName] ⟨[], false, [[e]]⟩ = .ok [rootName] := by
    cases e <;> first | rfl | cases he
  have hadd : Assembly.empty.add (.action 2 (.output ⟨[], false, [[e]]⟩)) =
      .ok ⟨[.action ⟨[], false, [[e]]⟩], [rootName], []⟩ :=
    bind_eq_ok.mpr ⟨[rootName], hscope, rfl⟩
  rw [parse, hitems, ok_bind, ofItems, List.foldlM_cons, hpiece, ok_bind, hadd]
  rfl

/-- A source whose only action is malformed is malformed where the action is. -/
theorem parse_of_malformed {b : List Char} {place : Nat} {cause : SyntaxError}
    (hitems : Item.ofSource (braced b).toList = .ok [.action 2 b]) (hbody : Action.ofBody b = .error (place, cause)) :
    parse (braced b) = .error (.parse (2 + place) cause) := by
  have hpiece : Piece.ofItem (.action 2 b) = .error (.parse (2 + place) cause) := by
    rw [Piece.ofItem, hbody]
  rw [parse, hitems, ok_bind, ofItems, List.foldlM_cons, hpiece]
  rfl

end Node

/-- A template that is nothing but a literal is the text of the literal. -/
theorem Template.build_of_literal {source : String} {e : Operand} {text : String}
    (hparse : Node.parse source = .ok [.action ⟨[], false, [[e]]⟩]) (he : e.literalText? = some text)
    (options : Options) : build source options = .ok ⟨.static ⟨text, []⟩, options⟩ := by
  have hsingle : Pipeline.outputOperand ⟨[], false, [[e]]⟩ = .ok e := by
    cases e <;> first | rfl | cases he
  have hoperand : StaticTemplate.ofOperand e = .ok ⟨text, []⟩ := by
    rw [StaticTemplate.ofOperand, he]
  have hnode : StaticTemplate.ofNode (.action ⟨[], false, [[e]]⟩) = .ok ⟨text, []⟩ :=
    bind_eq_ok.mpr ⟨e, hsingle, hoperand⟩
  have hcompile : StaticTemplate.compile [.action ⟨[], false, [[e]]⟩] = .ok (⟨text, []⟩ ++ StaticTemplate.empty) :=
    bind_eq_ok.mpr ⟨⟨text, []⟩, hnode, rfl⟩
  have happend : (⟨text, []⟩ : StaticTemplate) ++ StaticTemplate.empty = ⟨text, []⟩ := by
    show (⟨text ++ "", [] ++ []⟩ : StaticTemplate) = _
    rw [String.append_empty, List.append_nil]
  have hcompiled : Compiled.ofNodes [.action ⟨[], false, [[e]]⟩] = .ok (.static ⟨text, []⟩) :=
    bind_eq_ok.mpr ⟨⟨text, []⟩, happend ▸ hcompile, rfl⟩
  exact bind_eq_ok.mpr ⟨_, hparse, bind_eq_ok.mpr ⟨_, hcompiled, rfl⟩⟩

end QueryTemplate
