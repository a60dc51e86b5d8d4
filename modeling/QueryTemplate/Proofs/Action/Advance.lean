import QueryTemplate.Proofs.Action.Passage
import QueryTemplate.Proofs.Action.StringLiteral
import QueryTemplate.Proofs.Text.Advance

/-!
# The grammar advances

Whatever the grammar reads takes a character at least, and this is why reading comes to an end (`Reader.grammar_advances`).
Repetitions end where nothing more can be read. A pipeline in parentheses is read on a shorter text than the one around it, so
the grammar, which speaks of pipelines inside of pipelines, has one solution (`Reader.eq_pipelineOver_iff`), and a depth of
parentheses that is as large as the text is long is never used up (`Reader.pipelineBeyond_eq`).
-/

namespace QueryTemplate

namespace Reader

/-! ## The readers of the grammar -/

/-- An operand. -/
def operand : Reader Operand :=
  operandOver pipeline

/-- A command. -/
def command : Reader Command :=
  commandOver pipeline

/-- A pipeline, given a reader for the parentheses that stand inside each other beyond a depth. -/
def pipelineBeyond (deeper : Reader Pipeline) : Nat → Reader Pipeline
  | 0 => pipelineOver deeper
  | depth + 1 => pipelineOver (pipelineBeyond deeper depth)

/-! ## Progress -/

/-- A word has letters. -/
theorem advances_keyword {word : String} (h : word.toList ≠ []) : (keyword word).Advances := by
  have htext : (text word.toList).Advances := (reads_text word.toList).advances fun _ _ hu => hu ▸ h
  exact htext.andThen fun _ => stopsWithin_notNext isNameChar

/-- What a word stands for does not matter. -/
theorem advances_constant {α : Type} {word : String} (h : word.toList ≠ []) (a : α) : (constant word a).Advances :=
  (advances_keyword h).andThen fun _ => stopsWithin_succeed a

/-- A name has a first character. -/
theorem advances_name : name.Advances :=
  (advances_satisfy _).andThen fun _ => (stopsWithin_takeWhile _).andThen fun _ => stopsWithin_succeed _

/-- The name of a variable has a dollar sign. -/
theorem advances_variableName : variableName.Advances :=
  (advances_char '$').andThen fun _ => (stopsWithin_takeWhile _).andThen fun _ => stopsWithin_succeed _

/-- A step has a point. -/
theorem advances_step : step.Advances :=
  (advances_char '.').andThen fun _ => stopsWithin_name

/-- A path has a first step. -/
theorem advances_field : field.Advances :=
  advances_step.andThen fun _ => stopsWithin_step.many.andThen fun _ => stopsWithin_succeed _

/-- A variable has a name, even if its path is empty. -/
theorem advances_variableOperand : variableOperand.Advances :=
  advances_variableName.andThen fun _ => stopsWithin_step.many.andThen fun _ => stopsWithin_succeed _

/-- Each character of a string is written by one character at least. -/
theorem advances_stringChar : stringChar.Advances :=
  advances_of_length_lt stopsWithin_stringChar fun _ _ _ => length_lt_of_stringChar

/-- A string in double quotes has the first of them. -/
theorem advances_quotedString : quotedString.Advances :=
  (advances_char '"').andThen fun _ => stopsWithin_stringChar.many.andThen fun _ =>
    (stopsWithin_char '"').andThen fun _ => stopsWithin_succeed _

/-- A raw string has the first backquote. -/
theorem advances_rawString : rawString.Advances :=
  (advances_char '`').andThen fun _ => (stopsWithin_takeWhile _).andThen fun _ =>
    (stopsWithin_char '`').andThen fun _ => stopsWithin_succeed _

/-- A string of either kind has a quote. -/
theorem advances_stringLiteral : stringLiteral.Advances := by
  refine advances_firstOf fun p hp => ?_
  simp only [List.mem_cons, List.not_mem_nil, or_false] at hp
  rcases hp with rfl | rfl
  · exact advances_quotedString
  · exact advances_rawString

/-- A character constant has a quote. -/
theorem advances_charConstant : charConstant.Advances :=
  (advances_char '\'').andThen fun _ => stopsWithin_constantChar.andThen fun _ =>
    (stopsWithin_char '\'').andThen fun _ => stopsWithin_succeed _

/-- A number may begin with a sign, but it has digits. -/
theorem advances_numberSpelling : numberSpelling.Advances := by
  have hmagnitude : (firstOf [prefixedInteger, decimal]).Advances := by
    refine advances_firstOf fun p hp => ?_
    simp only [List.mem_cons, List.not_mem_nil, or_false] at hp
    rcases hp with rfl | rfl
    · exact solid_prefixedInteger.advances fun _ _ h => h.2
    · exact solid_decimal.advances fun _ _ h => h.2
  exact stopsWithin_sign.andThen_advances fun _ => hmagnitude.andThen fun _ =>
    (stopsWithin_notNext _).andThen fun _ => stopsWithin_succeed _

/-- A number has a spelling. -/
theorem advances_number : number.Advances := by
  intro s a rest h
  rw [number] at h
  split at h
  · rename_i spelling mid hspelling
    split at h
    · cases h
      exact advances_numberSpelling s spelling _ hspelling
    · cases h
  · cases h
  · cases h

/-- The variables of a pipeline have a first name. -/
theorem advances_targets : targets.Advances :=
  advances_variableName.andThen fun _ => stopsWithin_secondTarget.optional.andThen fun _ =>
    stopsWithin_blanks.andThen fun _ => stopsWithin_targetSign.andThen fun _ => stopsWithin_blanks.andThen fun _ =>
      stopsWithin_succeed _

section

variable {group : Reader Pipeline} (hgroup : group.StopsWithin)
include hgroup

/-- Each form of an operand advances. -/
theorem advances_operandForm (form : OperandForm) : (form.reader group).Advances := by
  cases form with
  | bool b => cases b <;> exact advances_constant (by decide) _
  | nil => exact advances_constant (by decide) _
  | string => exact advances_stringLiteral.andThen fun _ => stopsWithin_succeed _
  | character => exact advances_charConstant.withSpelling.andThen fun _ => stopsWithin_succeed _
  | number => exact advances_number.andThen fun _ => stopsWithin_succeed _
  | field => exact advances_field.andThen fun _ => stopsWithin_succeed _
  | dot => exact (advances_char '.').andThen fun _ => stopsWithin_succeed _
  | variablePath => exact advances_variableOperand
  | group =>
    exact (advances_char '(').andThen fun _ => stopsWithin_blanks.andThen fun _ => hgroup.andThen fun _ =>
      stopsWithin_blanks.andThen fun _ => (stopsWithin_char ')').andThen fun _ => stopsWithin_succeed _
  | function => exact advances_name.andThen fun _ => stopsWithin_succeed _

/-- An operand advances, whatever form it has. -/
theorem advances_operandOver : (operandOver group).Advances :=
  advances_firstOf (List.forall_mem_map.mpr fun form _ => advances_operandForm hgroup form)

/-- One more operand advances beyond the blanks before it. -/
theorem advances_furtherOperandOver : (furtherOperandOver group).Advances :=
  stopsWithin_someBlanks.andThen_advances fun _ => advances_operandOver hgroup

/-- A command has a first operand. -/
theorem advances_commandOver : (commandOver group).Advances :=
  (advances_operandOver hgroup).andThen fun _ => (stopsWithin_furtherOperandOver hgroup).many.andThen fun _ =>
    stopsWithin_succeed _

/-- One more command has a bar before it. -/
theorem advances_furtherCommandOver : (furtherCommandOver group).Advances :=
  stopsWithin_blanks.andThen_advances fun _ => (advances_char '|').andThen fun _ => stopsWithin_blanks.andThen fun _ =>
    stopsWithin_commandOver hgroup

/-- A pipeline has a first command, even without variables. -/
theorem advances_pipelineOver : (pipelineOver group).Advances :=
  stopsWithin_targets.optional.andThen_advances fun _ => (advances_commandOver hgroup).andThen fun _ =>
    (stopsWithin_furtherCommandOver hgroup).many.andThen fun _ => stopsWithin_succeed _

end

/-! ## The recursion through parentheses -/

section

variable {n : Nat} {group group' : Reader Pipeline} (h : AgreesBelow n group group') (hgroup : group'.StopsWithin)
include h hgroup

/-- Only the form of a pipeline in parentheses uses the reader for these. The opening parenthesis is the character by which the
pipeline inside is shorter. -/
theorem agreesBelow_operandForm (form : OperandForm) : AgreesBelow (n + 1) (form.reader group) (form.reader group') := by
  cases form with
  | group =>
    exact (advances_char '(').agreesBelow_andThen fun _ => (AgreesBelow.refl n blanks).andThen stopsWithin_blanks fun _ =>
      h.andThen hgroup fun _ => .refl _ _
  | bool b => cases b <;> exact .refl _ _
  | _ => exact .refl _ _

/-- The forms are tried in the same order. -/
theorem agreesBelow_operandOver : AgreesBelow (n + 1) (operandOver group) (operandOver group') :=
  agreesBelow_firstOf (agreesBelow_operandForm h hgroup) OperandForm.all

/-- The blanks before an operand are read without the reader for the parentheses. -/
theorem agreesBelow_furtherOperandOver :
    AgreesBelow (n + 1) (furtherOperandOver group) (furtherOperandOver group') :=
  (AgreesBelow.refl _ someBlanks).andThen stopsWithin_someBlanks fun _ => agreesBelow_operandOver h hgroup

/-- A command is read alike if its operands are. -/
theorem agreesBelow_commandOver : AgreesBelow (n + 1) (commandOver group) (commandOver group') :=
  (agreesBelow_operandOver h hgroup).andThen (stopsWithin_operandOver hgroup) fun _ =>
    ((agreesBelow_furtherOperandOver h hgroup).many (stopsWithin_furtherOperandOver hgroup)).andThen
      (stopsWithin_furtherOperandOver hgroup).many fun _ => .refl _ _

/-- The bar before a command is read without the reader for the parentheses. -/
theorem agreesBelow_furtherCommandOver :
    AgreesBelow (n + 1) (furtherCommandOver group) (furtherCommandOver group') :=
  (AgreesBelow.refl _ blanks).andThen stopsWithin_blanks fun _ =>
    (AgreesBelow.refl _ (char '|')).andThen (stopsWithin_char '|') fun _ =>
      (AgreesBelow.refl _ blanks).andThen stopsWithin_blanks fun _ => agreesBelow_commandOver h hgroup

/-- A pipeline is read alike, on texts that are longer by a character than those on which its parentheses are. -/
theorem agreesBelow_pipelineOver : AgreesBelow (n + 1) (pipelineOver group) (pipelineOver group') :=
  (AgreesBelow.refl _ (Reader.optional targets)).andThen stopsWithin_targets.optional fun _ =>
    (agreesBelow_commandOver h hgroup).andThen (stopsWithin_commandOver hgroup) fun _ =>
      ((agreesBelow_furtherCommandOver h hgroup).many (stopsWithin_furtherCommandOver hgroup)).andThen
        (stopsWithin_furtherCommandOver hgroup).many fun _ => .refl _ _

end

/-- A larger depth changes nothing on texts that are no longer than the depth. -/
theorem agreesBelow_pipelineWithin (depth : Nat) :
    AgreesBelow (depth + 1) (pipelineWithin depth) (pipelineWithin (depth + 1)) := by
  induction depth with
  | zero => exact agreesBelow_pipelineOver (agreesBelow_zero _ _) (stopsWithin_pipelineWithin 0)
  | succ depth ih => exact agreesBelow_pipelineOver ih (stopsWithin_pipelineWithin (depth + 1))

/-- So any depth that is at least the length of the text does for a pipeline. -/
theorem agreesBelow_pipeline (depth : Nat) : AgreesBelow (depth + 1) (pipelineWithin depth) pipeline := by
  intro s hs
  have hle : s.length ≤ depth := Nat.le_of_lt_succ hs
  show pipelineWithin depth s = pipelineWithin s.length s
  induction depth, hle using Nat.le_induction with
  | base => rfl
  | succ depth hle ih => rw [← agreesBelow_pipelineWithin depth s (Nat.lt_succ_of_le hle), ih (Nat.lt_succ_of_le hle)]

/-- The grammar speaks of itself: what stands in the parentheses of a pipeline is a pipeline. -/
theorem pipeline_eq : pipeline = pipelineOver pipeline := by
  funext s
  have hagrees := agreesBelow_pipelineOver (agreesBelow_pipeline s.length) stopsWithin_pipeline
  rw [← hagrees s (by omega)]
  exact agreesBelow_pipelineWithin s.length s (Nat.lt_succ_self _)

/-- A reader that reads pipelines with itself in the parentheses reads what the grammar reads. -/
theorem eq_pipelineOver_iff (p : Reader Pipeline) : p = pipelineOver p ↔ p = pipeline := by
  constructor
  · intro hp
    have hagrees : ∀ n, AgreesBelow n p pipeline := by
      intro n
      induction n with
      | zero => exact agreesBelow_zero p pipeline
      | succ n ih =>
        rw [hp, pipeline_eq]
        exact agreesBelow_pipelineOver ih stopsWithin_pipeline
    funext s
    exact hagrees (s.length + 1) s (Nat.lt_succ_self _)
  · rintro rfl
    exact pipeline_eq

/-- Within a depth that is as large as the text is long, nothing is left to the other reader. -/
theorem pipelineBeyond_eq (deeper : Reader Pipeline) (s : List Char) : pipelineBeyond deeper s.length s = pipeline s := by
  have hagrees : ∀ depth, AgreesBelow (depth + 1) (pipelineBeyond deeper depth) pipeline := by
    intro depth
    induction depth with
    | zero =>
      rw [pipeline_eq]
      exact agreesBelow_pipelineOver (agreesBelow_zero deeper pipeline) stopsWithin_pipeline
    | succ depth ih =>
      rw [pipeline_eq]
      exact agreesBelow_pipelineOver ih stopsWithin_pipeline
  exact hagrees s.length s (Nat.lt_succ_self _)

/-- The grammar always makes progress.

- What an operand, a command, a pipeline, the variables before a pipeline, a field, a variable, a string of either kind, a
  character constant or a number leaves is a proper suffix of the text.
- The repetitions of the grammar read a character at least each time, until nothing more can be read.
- The grammar has one solution as it speaks of pipelines in the parentheses of pipelines, and reading comes to it with as many
  parentheses inside each other as the text is long: what would be read beyond this depth does not matter.
- A body is an action, or it goes wrong at an offset that is at most its length and lies between two of its characters or at
  one of its ends. -/
theorem grammar_advances :
    (operand.Advances ∧ command.Advances ∧ pipeline.Advances ∧ targets.Advances ∧ field.Advances ∧
        variableOperand.Advances ∧ quotedString.Advances ∧ rawString.Advances ∧ charConstant.withSpelling.Advances ∧
        number.Advances) ∧
      (step.Repeats ∧ (furtherOperandOver pipeline).Repeats ∧ (furtherCommandOver pipeline).Repeats ∧
        stringChar.Repeats) ∧
      (∀ p : Reader Pipeline, p = pipelineOver p ↔ p = pipeline) ∧
      (∀ (deeper : Reader Pipeline) (s : List Char), pipelineBeyond deeper s.length s = pipeline s) ∧
      ∀ body : List Char, (∃ a, Action.ofBody body = .ok a) ∨
        ∃ offset cause, Action.ofBody body = .error (offset, cause) ∧ offset ≤ utf8Length body ∧
          IsBoundary body offset := by
  have hpipeline : pipeline.Advances := by
    rw [pipeline_eq]
    exact advances_pipelineOver stopsWithin_pipeline
  refine ⟨⟨advances_operandOver stopsWithin_pipeline, advances_commandOver stopsWithin_pipeline, hpipeline,
    advances_targets, advances_field, advances_variableOperand, advances_quotedString, advances_rawString,
    advances_charConstant.withSpelling, advances_number⟩, ⟨advances_step.repeats,
    (advances_furtherOperandOver stopsWithin_pipeline).repeats,
    (advances_furtherCommandOver stopsWithin_pipeline).repeats, advances_stringChar.repeats⟩, eq_pipelineOver_iff,
    pipelineBeyond_eq, fun body => ?_⟩
  cases hbody : Action.ofBody body with
  | ok a => exact Or.inl ⟨a, rfl⟩
  | error e =>
    have hplace : IsBoundary body e.1 := Action.isBoundary_of_ofBody hbody
    exact Or.inr ⟨e.1, e.2, rfl, hplace.le, hplace⟩

/-- Parentheses inside each other, with a text left behind the pipeline. -/
theorem grammar_advances_in_parentheses :
    pipeline "(.A (1)) | len )".toList =
        .done ⟨[], false, [[.group ⟨[], false, [[.field ["A"], .group ⟨[], false, [[.number "1" (.int 1)]]⟩]]⟩],
          [.function "len"]]⟩ " )".toList ∧
      (" )".toList <:+ "(.A (1)) | len )".toList ∧ " )".toList ≠ "(.A (1)) | len )".toList) ∧
      pipelineBeyond (fun inner => .miss inner) 16 "(.A (1)) | len )".toList = pipeline "(.A (1)) | len )".toList :=
  have hread : pipeline "(.A (1)) | len )".toList =
      .done ⟨[], false, [[.group ⟨[], false, [[.field ["A"], .group ⟨[], false, [[.number "1" (.int 1)]]⟩]]⟩],
        [.function "len"]]⟩ " )".toList := by
    decide +kernel
  have hlength : "(.A (1)) | len )".toList.length = 16 := rfl
  ⟨hread, grammar_advances.1.2.2.1 _ _ _ hread, hlength ▸ grammar_advances.2.2.2.1 (fun inner => .miss inner) _⟩

end Reader

end QueryTemplate
