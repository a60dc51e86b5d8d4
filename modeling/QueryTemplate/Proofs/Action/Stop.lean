import QueryTemplate.Action.Grammar
import QueryTemplate.Proofs.Text.Boundary
import QueryTemplate.Proofs.Text.Stop

/-!
# Where the grammar stops

All readers of the grammar stop in the text that they read, so a body that is no action goes wrong between two of its
characters or at its end (`Action.isBoundary_of_ofBody`).
-/

namespace QueryTemplate

namespace Reader

/-! ## Words -/

/-- Blanks end before the first character that is none. -/
theorem stopsWithin_blanks : blanks.StopsWithin :=
  (stopsWithin_takeWhile isBlank).andThen fun _ => stopsWithin_succeed ()

/-- So they do if one is needed. -/
theorem stopsWithin_someBlanks : someBlanks.StopsWithin :=
  (stopsWithin_satisfy isBlank).andThen fun _ => stopsWithin_blanks

/-- A word is missed at its beginning, or at its end if a name goes on there. -/
theorem stopsWithin_keyword (word : String) : (keyword word).StopsWithin :=
  (stopsWithin_text word.toList).andThen fun _ => stopsWithin_notNext isNameChar

/-- What a word stands for does not matter. -/
theorem stopsWithin_constant {α : Type} (word : String) (a : α) : (constant word a).StopsWithin :=
  (stopsWithin_keyword word).andThen fun _ => stopsWithin_succeed a

/-- A name ends with its last character. -/
theorem stopsWithin_name : name.StopsWithin :=
  (stopsWithin_satisfy _).andThen fun _ => (stopsWithin_takeWhile _).andThen fun _ => stopsWithin_succeed _

/-- The name of a variable may end with the dollar sign. -/
theorem stopsWithin_variableName : variableName.StopsWithin :=
  (stopsWithin_char '$').andThen fun _ => (stopsWithin_takeWhile _).andThen fun _ => stopsWithin_succeed _

/-- A step is missed at the point or behind it. -/
theorem stopsWithin_step : step.StopsWithin :=
  (stopsWithin_char '.').andThen fun _ => stopsWithin_name

/-- A path ends with its last step. -/
theorem stopsWithin_field : field.StopsWithin :=
  stopsWithin_step.andThen fun _ => stopsWithin_step.many.andThen fun _ => stopsWithin_succeed _

/-! ## Literals -/

/-- Each form of an escape stops in the text. -/
theorem stopsWithin_escapeForm (form : EscapeForm) : form.reader.StopsWithin := by
  cases form with
  | named letter c => exact (stopsWithin_char letter).andThen fun _ => stopsWithin_succeed c
  | hex letter count => exact (stopsWithin_char letter).andThen fun _ => (stopsWithin_exactly _ count).mapOption _
  | octal => exact (stopsWithin_exactly _ 3).mapOption _

/-- An escape stops where its form does. -/
theorem stopsWithin_escape : escape.StopsWithin :=
  stopsWithin_firstOf (List.forall_mem_map.mpr fun form _ => stopsWithin_escapeForm form)

/-- A line break and a quote are left where they stand. -/
theorem stopsWithin_stringChar : stringChar.StopsWithin := by
  intro s
  cases s with
  | nil => exact List.suffix_refl []
  | cons c rest =>
    rw [stringChar]
    split
    · exact List.suffix_refl _
    · split
      · exact List.suffix_refl _
      · split
        · exact (stopsWithin_escape rest).trans (List.suffix_cons c rest)
        · exact List.suffix_cons c rest

/-- A string in double quotes may end with the text, but not beyond it. -/
theorem stopsWithin_quotedString : quotedString.StopsWithin :=
  (stopsWithin_char '"').andThen fun _ => stopsWithin_stringChar.many.andThen fun _ =>
    (stopsWithin_char '"').andThen fun _ => stopsWithin_succeed _

/-- So may a raw string. -/
theorem stopsWithin_rawString : rawString.StopsWithin :=
  (stopsWithin_char '`').andThen fun _ => (stopsWithin_takeWhile _).andThen fun _ =>
    (stopsWithin_char '`').andThen fun _ => stopsWithin_succeed _

/-- A string of either kind stops in the text. -/
theorem stopsWithin_stringLiteral : stringLiteral.StopsWithin :=
  stopsWithin_quotedString.firstOf_cons (stopsWithin_rawString.firstOf_cons stopsWithin_firstOf_nil)

/-- The character of a constant is one character or an escape. -/
theorem stopsWithin_constantChar : constantChar.StopsWithin := by
  have hescaped : ((char '\\').andThen fun _ => escape).StopsWithin :=
    (stopsWithin_char '\\').andThen fun _ => stopsWithin_escape
  exact hescaped.firstOf_cons ((stopsWithin_satisfy _).firstOf_cons stopsWithin_firstOf_nil)

/-- A character constant may lack its closing quote. -/
theorem stopsWithin_charConstant : charConstant.StopsWithin :=
  (stopsWithin_char '\'').andThen fun _ => stopsWithin_constantChar.andThen fun _ =>
    (stopsWithin_char '\'').andThen fun _ => stopsWithin_succeed _

/-- Digits end before the first character that is none. -/
theorem stopsWithin_digits : digits.StopsWithin :=
  (stopsWithin_satisfy _).andThen fun _ => (stopsWithin_takeWhile _).andThen fun _ => stopsWithin_succeed _

/-- A sign that is absent leaves the text. -/
theorem stopsWithin_sign : sign.StopsWithin :=
  (stopsWithin_satisfy _).optional

/-- An integer with a prefix ends before the first character that is no hexadecimal digit. -/
theorem stopsWithin_prefixedInteger : prefixedInteger.StopsWithin :=
  (stopsWithin_char '0').andThen fun _ => (stopsWithin_satisfy _).andThen fun _ =>
    (stopsWithin_takeWhile _).andThen fun _ => stopsWithin_succeed _

/-- A decimal number ends with its mantissa if no exponent follows. -/
theorem stopsWithin_decimal : decimal.StopsWithin := by
  have hdigits : separatedDigits.StopsWithin :=
    (stopsWithin_satisfy _).andThen fun _ => (stopsWithin_takeWhile _).andThen fun _ => stopsWithin_succeed _
  have hpoint : ((char '.').andThen fun point => (takeWhile Char.isDigit).andThen fun more =>
      succeed (point :: more)).StopsWithin :=
    (stopsWithin_char '.').andThen fun _ => (stopsWithin_takeWhile _).andThen fun _ => stopsWithin_succeed _
  have hwhole : wholeMantissa.StopsWithin :=
    hdigits.andThen fun _ => hpoint.optional.andThen fun _ => stopsWithin_succeed _
  have hfraction : fractionMantissa.StopsWithin :=
    (stopsWithin_char '.').andThen fun _ => stopsWithin_digits.andThen fun _ => stopsWithin_succeed _
  have hexponent : exponentPart.StopsWithin :=
    (stopsWithin_satisfy _).andThen fun _ => stopsWithin_sign.andThen fun _ => stopsWithin_digits.andThen fun _ =>
      stopsWithin_succeed _
  exact (hwhole.firstOf_cons (hfraction.firstOf_cons stopsWithin_firstOf_nil)).andThen fun _ =>
    hexponent.optional.andThen fun _ => stopsWithin_succeed _

/-- The spelling of a number ends before the first character that is no part of it. -/
theorem stopsWithin_numberSpelling : numberSpelling.StopsWithin :=
  stopsWithin_sign.andThen fun _ =>
    (stopsWithin_prefixedInteger.firstOf_cons (stopsWithin_decimal.firstOf_cons stopsWithin_firstOf_nil)).andThen fun _ =>
      (stopsWithin_notNext _).andThen fun _ => stopsWithin_succeed _

/-- A spelling without a value fails where it begins. -/
theorem stopsWithin_number : number.StopsWithin := by
  intro s
  rw [number]
  split
  · split
    · exact stopsWithin_numberSpelling.done (by assumption)
    · exact List.suffix_refl s
  · exact stopsWithin_numberSpelling.miss (by assumption)
  · exact stopsWithin_numberSpelling.fail (by assumption)

/-! ## Pipelines -/

/-- The second variable is missed at the comma or behind it. -/
theorem stopsWithin_secondTarget : secondTarget.StopsWithin :=
  stopsWithin_blanks.andThen fun _ => (stopsWithin_char ',').andThen fun _ => stopsWithin_blanks.andThen fun _ =>
    stopsWithin_variableName

/-- The sign after the variables is read as a whole. -/
theorem stopsWithin_targetSign : targetSign.StopsWithin := by
  have hdeclares : ((text [':', '=']).andThen fun _ => succeed false).StopsWithin :=
    (stopsWithin_text _).andThen fun _ => stopsWithin_succeed _
  have hassigns : ((char '=').andThen fun _ => succeed true).StopsWithin :=
    (stopsWithin_char '=').andThen fun _ => stopsWithin_succeed _
  exact hdeclares.firstOf_cons (hassigns.firstOf_cons stopsWithin_firstOf_nil)

/-- The variables of a pipeline are missed where one of their parts is. -/
theorem stopsWithin_targets : targets.StopsWithin :=
  stopsWithin_variableName.andThen fun _ => stopsWithin_secondTarget.optional.andThen fun _ =>
    stopsWithin_blanks.andThen fun _ => stopsWithin_targetSign.andThen fun _ => stopsWithin_blanks.andThen fun _ =>
      stopsWithin_succeed _

section

variable {group : Reader Pipeline} (hgroup : group.StopsWithin)
include hgroup

/-- Each form of an operand stops in the text. -/
theorem stopsWithin_operandForm (form : OperandForm) : (form.reader group).StopsWithin := by
  cases form with
  | bool b => cases b <;> exact stopsWithin_constant _ _
  | nil => exact stopsWithin_constant _ _
  | string => exact stopsWithin_stringLiteral.andThen fun _ => stopsWithin_succeed _
  | character => exact stopsWithin_charConstant.withSpelling.andThen fun _ => stopsWithin_succeed _
  | number => exact stopsWithin_number.andThen fun _ => stopsWithin_succeed _
  | field => exact stopsWithin_field.andThen fun _ => stopsWithin_succeed _
  | dot => exact (stopsWithin_char '.').andThen fun _ => stopsWithin_succeed _
  | variablePath =>
    exact stopsWithin_variableName.andThen fun _ => stopsWithin_step.many.andThen fun _ => stopsWithin_succeed _
  | group =>
    exact (stopsWithin_char '(').andThen fun _ => stopsWithin_blanks.andThen fun _ => hgroup.andThen fun _ =>
      stopsWithin_blanks.andThen fun _ => (stopsWithin_char ')').andThen fun _ => stopsWithin_succeed _
  | function => exact stopsWithin_name.andThen fun _ => stopsWithin_succeed _

/-- An operand stops where its form does. -/
theorem stopsWithin_operandOver : (operandOver group).StopsWithin :=
  stopsWithin_firstOf (List.forall_mem_map.mpr fun form _ => stopsWithin_operandForm hgroup form)

/-- One more operand is missed at the blanks or behind them. -/
theorem stopsWithin_furtherOperandOver : (furtherOperandOver group).StopsWithin :=
  stopsWithin_someBlanks.andThen fun _ => stopsWithin_operandOver hgroup

/-- A command ends with its last operand. -/
theorem stopsWithin_commandOver : (commandOver group).StopsWithin :=
  (stopsWithin_operandOver hgroup).andThen fun _ => (stopsWithin_furtherOperandOver hgroup).many.andThen fun _ =>
    stopsWithin_succeed _

/-- One more command is missed at the bar or behind it. -/
theorem stopsWithin_furtherCommandOver : (furtherCommandOver group).StopsWithin :=
  stopsWithin_blanks.andThen fun _ => (stopsWithin_char '|').andThen fun _ => stopsWithin_blanks.andThen fun _ =>
    stopsWithin_commandOver hgroup

/-- A pipeline ends with its last command. -/
theorem stopsWithin_pipelineOver : (pipelineOver group).StopsWithin :=
  stopsWithin_targets.optional.andThen fun _ => (stopsWithin_commandOver hgroup).andThen fun _ =>
    (stopsWithin_furtherCommandOver hgroup).many.andThen fun _ => stopsWithin_succeed _

end

/-- By induction on the depth: the reader for the parentheses stops in the text, so the one around it does. -/
theorem stopsWithin_pipelineWithin (depth : Nat) : (pipelineWithin depth).StopsWithin := by
  induction depth with
  | zero => exact stopsWithin_pipelineOver fun s => List.suffix_refl s
  | succ depth ih => exact stopsWithin_pipelineOver ih

/-- A pipeline stops in the text, however deep its parentheses are. -/
theorem stopsWithin_pipeline : pipeline.StopsWithin :=
  fun s => stopsWithin_pipelineWithin s.length s

/-! ## Actions -/

/-- The beginning of a block ends with its pipeline. -/
theorem stopsWithin_opening (kind : BlockKind) : (opening kind).StopsWithin :=
  (stopsWithin_keyword _).andThen fun _ => stopsWithin_blanks.andThen fun _ => stopsWithin_pipeline.andThen fun _ =>
    stopsWithin_succeed _

/-- A chained block begins behind the blanks. -/
theorem stopsWithin_chainedOpening : chainedOpening.StopsWithin :=
  stopsWithin_someBlanks.andThen fun _ =>
    (stopsWithin_opening .cond).firstOf_cons ((stopsWithin_opening .focus).firstOf_cons stopsWithin_firstOf_nil)

/-- An `else` ends with its word if no block is chained to it. -/
theorem stopsWithin_otherwise : otherwise.StopsWithin :=
  (stopsWithin_keyword _).andThen fun _ => stopsWithin_chainedOpening.optional.andThen fun _ => stopsWithin_succeed _

/-- The argument of a template ends with its pipeline. -/
theorem stopsWithin_argument : argument.StopsWithin :=
  stopsWithin_someBlanks.andThen fun _ => stopsWithin_pipeline

/-- An invocation ends with the name of the template if no argument follows. -/
theorem stopsWithin_invocation : invocation.StopsWithin :=
  (stopsWithin_keyword _).andThen fun _ => stopsWithin_blanks.andThen fun _ =>
    stopsWithin_stringLiteral.andThen fun _ => stopsWithin_argument.optional.andThen fun _ => stopsWithin_succeed _

/-- A definition takes the rest of the text. -/
theorem stopsWithin_definition (word : String) : (definition word).StopsWithin :=
  (stopsWithin_keyword word).andThen fun _ => (stopsWithin_takeWhile _).andThen fun _ => stopsWithin_succeed _

/-- Each form of an action stops in the text. -/
theorem stopsWithin_actionForm (form : ActionForm) : form.reader.StopsWithin := by
  cases form with
  | opening kind => exact (stopsWithin_opening kind).andThen fun _ => stopsWithin_succeed _
  | otherwise => exact stopsWithin_otherwise
  | ending => exact stopsWithin_constant _ _
  | breakLoop => exact stopsWithin_constant _ _
  | continueLoop => exact stopsWithin_constant _ _
  | invocation => exact stopsWithin_invocation
  | definition word => exact stopsWithin_definition word
  | output => exact stopsWithin_pipeline.andThen fun _ => stopsWithin_succeed _

/-- An action stops where its form does. -/
theorem stopsWithin_action : action.StopsWithin :=
  stopsWithin_firstOf (List.forall_mem_map.mpr fun form _ => stopsWithin_actionForm form)

/-- The blanks around an action change nothing. -/
theorem stopsWithin_spacedAction : spacedAction.StopsWithin := by
  have hread : (blanks.andThen fun _ => action.andThen fun a => blanks.andThen fun _ => succeed a).StopsWithin :=
    stopsWithin_blanks.andThen fun _ => stopsWithin_action.andThen fun _ => stopsWithin_blanks.andThen fun _ =>
      stopsWithin_succeed _
  exact hread

end Reader

/-- A body that is no action goes wrong between two of its characters or at its end. -/
theorem Action.isBoundary_of_ofBody {body : List Char} {offset : Nat} {cause : SyntaxError}
    (h : ofBody body = .error (offset, cause)) : IsBoundary body offset := by
  rw [ofBody] at h
  split at h
  · cases h
  all_goals
    cases h
    refine isBoundary_offsetIn ?_
  · exact Reader.stopsWithin_spacedAction.done (by assumption)
  · exact Reader.stopsWithin_spacedAction.miss (by assumption)
  · exact Reader.stopsWithin_spacedAction.fail (by assumption)

end QueryTemplate
