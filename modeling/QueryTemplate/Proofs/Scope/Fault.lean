import QueryTemplate.Proofs.Outcome
import QueryTemplate.Scope

/-!
# The faults of a pipeline

What the check of a pipeline finds fault with, it reports at the offset of the action that the pipeline stands in, however
deep inside parentheses the fault is (`Scope.ends_afterPipeline`). The offset plays no other part (`Scope.afterPipeline_alike`).
-/

namespace QueryTemplate

/-- The causes that the check of a pipeline may report. -/
def SyntaxError.isScoping : SyntaxError → Bool
  | .emptyPipeline _ | .notExecutable _ | .undefinedVariable _ | .undefinedFunction _ | .tooManyVariables _ => true
  | _ => false

/-- The error reports, at an offset, what the check of a pipeline may find. -/
def Error.IsScopingAt (offset : Nat) (e : Error) : Prop :=
  ∃ cause, e = .parse offset cause ∧ cause.isScoping = true

namespace Scope

/-- A name that may not be declared is reported at the offset. -/
theorem ends_declare (offset : Nat) (assigns : Bool) (names : List String) (scope : Scope) :
    Ends (fun _ => True) (Error.IsScopingAt offset) (declare offset assigns names scope) := by
  induction names generalizing scope with
  | nil => trivial
  | cons name names ih =>
    rw [declare]
    split
    · split
      · exact ih scope
      · exact ⟨_, rfl, rfl⟩
    · exact ih (name :: scope)

mutual

/-- What is found in an operand, also inside parentheses, is reported at the offset. -/
theorem ends_afterOperand (offset : Nat) (scope : Scope) (operand : Operand) :
    Ends (fun _ => True) (Error.IsScopingAt offset) (afterOperand offset scope operand) := by
  match operand with
  | .group p =>
    rw [afterOperand]
    exact ends_afterPipeline offset .group scope p
  | .variable _ _ | .function _ =>
    rw [afterOperand]
    split
    · trivial
    · exact ⟨_, rfl, rfl⟩
  | .bool _ | .number _ _ | .string _ | .nil | .dot | .field _ => trivial

/-- What is found in one of the operands of a command is reported there, too. -/
theorem ends_afterCommand (offset : Nat) (scope : Scope) (operands : List Operand) :
    Ends (fun _ => True) (Error.IsScopingAt offset) (afterCommand offset scope operands) := by
  match operands with
  | [] => trivial
  | operand :: operands =>
    rw [afterCommand]
    exact (ends_afterOperand offset scope operand).bind fun scope _ => ends_afterCommand offset scope operands

/-- So is what is found in one of the commands of a pipeline. -/
theorem ends_afterCommands (offset stage : Nat) (scope : Scope) (commands : List (List Operand)) :
    Ends (fun _ => True) (Error.IsScopingAt offset) (afterCommands offset stage scope commands) := by
  match commands with
  | [] => trivial
  | command :: commands =>
    rw [afterCommands]
    split
    · exact ⟨_, rfl, rfl⟩
    · exact (ends_afterCommand offset scope command).bind fun scope _ =>
        ends_afterCommands offset (stage + 1) scope commands

/-- Whatever the check of a pipeline finds, it reports at the offset of the action. -/
theorem ends_afterPipeline (offset : Nat) (place : PipelinePlace) (scope : Scope) (p : PipelineOf Operand) :
    Ends (fun _ => True) (Error.IsScopingAt offset) (afterPipeline offset place scope p) := by
  match p with
  | ⟨targets, assigns, commands⟩ =>
    rw [afterPipeline]
    split
    · exact ⟨_, rfl, rfl⟩
    · refine (ends_afterCommands offset 1 scope commands).bind fun scope _ => ?_
      dsimp only
      split
      · exact ⟨_, rfl, rfl⟩
      · exact ends_declare offset assigns targets scope

end

/-! ## Two offsets -/

/-- Which variables are declared does not depend on the offset of the action. -/
theorem declare_alike (offset offset' : Nat) (assigns : Bool) (names : List String) (scope : Scope) :
    Alike (fun _ _ => True) Eq (declare offset assigns names scope) (declare offset' assigns names scope) := by
  induction names generalizing scope with
  | nil => exact Alike.ok rfl
  | cons name names ih =>
    rw [declare, declare]
    split
    · split
      · exact ih scope
      · exact Alike.error trivial
    · exact ih (name :: scope)

mutual

/-- Whether an operand passes its check, and in which scope it leaves what follows, does not depend on the offset. -/
theorem afterOperand_alike (offset offset' : Nat) (scope : Scope) (operand : Operand) :
    Alike (fun _ _ => True) Eq (afterOperand offset scope operand) (afterOperand offset' scope operand) := by
  match operand with
  | .group p =>
    rw [afterOperand, afterOperand]
    exact afterPipeline_alike offset offset' .group scope p
  | .variable _ _ | .function _ =>
    rw [afterOperand, afterOperand]
    split
    · exact Alike.ok rfl
    · exact Alike.error trivial
  | .bool _ | .number _ _ | .string _ | .nil | .dot | .field _ => exact Alike.ok rfl

/-- Neither does it for a command. -/
theorem afterCommand_alike (offset offset' : Nat) (scope : Scope) (operands : List Operand) :
    Alike (fun _ _ => True) Eq (afterCommand offset scope operands) (afterCommand offset' scope operands) := by
  match operands with
  | [] => exact Alike.ok rfl
  | operand :: operands =>
    rw [afterCommand, afterCommand]
    refine (afterOperand_alike offset offset' scope operand).bind fun scope _ h => ?_
    exact h ▸ afterCommand_alike offset offset' scope operands

/-- Neither does it for the commands of a pipeline, whatever their stages. -/
theorem afterCommands_alike (offset offset' stage : Nat) (scope : Scope) (commands : List (List Operand)) :
    Alike (fun _ _ => True) Eq (afterCommands offset stage scope commands)
      (afterCommands offset' stage scope commands) := by
  match commands with
  | [] => exact Alike.ok rfl
  | command :: commands =>
    rw [afterCommands, afterCommands]
    split
    · exact Alike.error trivial
    · refine (afterCommand_alike offset offset' scope command).bind fun scope _ h => ?_
      exact h ▸ afterCommands_alike offset offset' (stage + 1) scope commands

/-- Whether a pipeline passes its check, and in which scope it leaves what follows, does not depend on the offset of the
action. -/
theorem afterPipeline_alike (offset offset' : Nat) (place : PipelinePlace) (scope : Scope) (p : PipelineOf Operand) :
    Alike (fun _ _ => True) Eq (afterPipeline offset place scope p) (afterPipeline offset' place scope p) := by
  match p with
  | ⟨targets, assigns, commands⟩ =>
    rw [afterPipeline, afterPipeline]
    split
    · exact Alike.error trivial
    · refine (afterCommands_alike offset offset' 1 scope commands).bind fun scope _ h => ?_
      subst h
      dsimp only
      split
      · exact Alike.error trivial
      · exact declare_alike offset offset' assigns targets scope

end

end Scope

end QueryTemplate
