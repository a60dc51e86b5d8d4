import QueryTemplate.Proofs.Action.Complete
import QueryTemplate.Proofs.Scope.Declared
import QueryTemplate.Syntax.Text

/-!
# What a passed check says

A pipeline whose check passes has no more variables than its place allows, names only functions that there are, and runs in
stages that can be run (`Pipeline.isRunnable_of_passed`); and so has every pipeline in its parentheses, since these are checked
with it (`Pipeline.Passed.contains`).
-/

namespace QueryTemplate

namespace Pipeline

/-- The check of the pipeline at a place passes in some scope. -/
def Passed (place : PipelinePlace) (p : Pipeline) : Prop :=
  ∃ offset scope last, Scope.afterPipeline offset place scope p = .ok last

/-- A pipeline declares or assigns at most two variables in a loop and one elsewhere, names functions of the template
language, and begins no command after the first with a literal or the dot. -/
structure IsRunnable (place : PipelinePlace) (p : Pipeline) : Prop where
  targets : p.targets.length ≤ if place = .block .loop then 2 else 1
  functions : ∀ command ∈ p.commands, ∀ name, Operand.function name ∈ command → name ∈ functionNames
  stages : ∀ command ∈ p.commands.tail, ∀ operand, command.head? = some operand →
    operand.isLiteral = false ∧ operand ≠ .dot

end Pipeline

namespace Scope

theorem mostVariables_eq (place : PipelinePlace) : mostVariables place = if place = .block .loop then 2 else 1 := by
  match place with
  | .block .loop | .block .cond | .block .focus | .action | .template | .group => rfl

/-- A command that may stand after the first begins with no literal and no dot. -/
theorem of_executable {command : Command} (h : executable command = true) {operand : Operand}
    (hhead : command.head? = some operand) : operand.isLiteral = false ∧ operand ≠ .dot := by
  obtain ⟨rest, rfl⟩ := List.head?_eq_some_iff.mp hhead
  match operand with
  | .bool _ | .number _ _ | .string _ | .nil | .dot => cases h
  | .field _ | .variable _ _ | .function _ | .group _ => exact ⟨rfl, nofun⟩

/-- The operands of a command that passes its check pass theirs. -/
theorem exists_afterOperand {offset : Nat} {scope last : Scope} {operands : List Operand}
    (h : afterCommand offset scope operands = .ok last) {operand : Operand} (hoperand : operand ∈ operands) :
    ∃ before after, afterOperand offset before operand = .ok after := by
  induction operands generalizing scope with
  | nil => cases hoperand
  | cons first operands ih =>
    rw [afterCommand] at h
    obtain ⟨mid, hmid, h⟩ := bind_eq_ok.mp h
    rcases List.mem_cons.mp hoperand with rfl | hoperand
    · exact ⟨scope, mid, hmid⟩
    · exact ih h hoperand

/-- The commands of a pipeline that passes its check pass theirs. -/
theorem exists_afterCommand {offset stage : Nat} {scope last : Scope} {commands : List Command}
    (h : afterCommands offset stage scope commands = .ok last) {command : Command} (hcommand : command ∈ commands) :
    ∃ before after, afterCommand offset before command = .ok after := by
  induction commands generalizing scope stage with
  | nil => cases hcommand
  | cons first commands ih =>
    obtain ⟨mid, hmid, h⟩ := afterCommands_cons_eq_ok h
    rcases List.mem_cons.mp hcommand with rfl | hcommand
    · exact ⟨scope, mid, hmid⟩
    · exact ih h hcommand

/-- Commands that are checked as later stages may stand there. -/
theorem executable_of_afterCommands {offset stage : Nat} {scope last : Scope} {commands : List Command}
    (hstage : 1 < stage) (h : afterCommands offset stage scope commands = .ok last) :
    ∀ command ∈ commands, executable command = true := by
  induction commands generalizing scope stage with
  | nil => exact fun _ h => by cases h
  | cons first commands ih =>
    rw [afterCommands] at h
    split at h
    · cases h
    · rename_i hfirst
      obtain ⟨mid, -, h⟩ := bind_eq_ok.mp h
      refine List.forall_mem_cons.mpr ⟨?_, ih (Nat.lt_succ_of_lt hstage) h⟩
      simpa [hstage] using hfirst

end Scope

namespace Pipeline

/-- The operands of a pipeline that passes its check pass theirs. -/
theorem Passed.operand {place : PipelinePlace} {p : Pipeline} (h : Passed place p) {command : Command}
    (hcommand : command ∈ p.commands) {operand : Operand} (hoperand : operand ∈ command) :
    ∃ offset before after, Scope.afterOperand offset before operand = .ok after := by
  obtain ⟨offset, scope, last, h⟩ := h
  obtain ⟨mid, hcommands, -, -⟩ := Scope.afterPipeline_eq_ok h
  obtain ⟨before, after, hafter⟩ := Scope.exists_afterCommand hcommands hcommand
  exact ⟨offset, Scope.exists_afterOperand hafter hoperand⟩

/-- The pipelines in the parentheses of a pipeline are checked with it. -/
theorem Passed.contains {place place' : PipelinePlace} {p q : Pipeline} (h : Passed place p)
    (hq : Contains place p place' q) : Passed place' q := by
  induction hq with
  | itself => exact h
  | group hcommand hgroup _ ih =>
    obtain ⟨offset, before, after, hafter⟩ := h.operand hcommand hgroup
    rw [Scope.afterOperand] at hafter
    exact ih ⟨offset, before, after, hafter⟩

/-- A pipeline that passes its check can be run at its place. -/
theorem isRunnable_of_passed {place : PipelinePlace} {p : Pipeline} (h : Passed place p) : IsRunnable place p where
  targets := by
    obtain ⟨offset, scope, last, h⟩ := h
    obtain ⟨mid, -, hcount, -⟩ := Scope.afterPipeline_eq_ok h
    rwa [Scope.mostVariables_eq] at hcount
  functions command hcommand name hname := by
    obtain ⟨offset, before, after, hafter⟩ := h.operand hcommand hname
    rw [Scope.afterOperand] at hafter
    split at hafter
    · assumption
    · cases hafter
  stages command hcommand operand hhead := by
    obtain ⟨offset, scope, last, h⟩ := h
    obtain ⟨mid, hcommands, -, -⟩ := Scope.afterPipeline_eq_ok h
    obtain ⟨targets, assigns, commands⟩ := p
    cases commands with
    | nil => cases hcommand
    | cons first commands =>
      obtain ⟨mid', -, hrest⟩ := Scope.afterCommands_cons_eq_ok hcommands
      exact Scope.of_executable (Scope.executable_of_afterCommands (by decide) hrest command hcommand) hhead

end Pipeline

end QueryTemplate
