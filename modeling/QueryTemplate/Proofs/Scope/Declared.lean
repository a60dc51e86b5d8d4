import QueryTemplate.Proofs.Outcome
import QueryTemplate.Proofs.Render.Operand
import QueryTemplate.Scope
import QueryTemplate.Syntax.Outline

/-!
# What a check brings into scope

The names that a pipeline declares (`Pipeline.declared`), and what its check says about them: every name in scope
afterwards was in scope before or is declared (`mem_of_afterPipeline`), and a pipeline of one operand brings in exactly its
own variables (`afterPipeline_of_operand`).
-/

namespace QueryTemplate

namespace Pipeline

/-- The variables that a pipeline declares before its commands. What it assigns it does not declare. -/
def ownTargets (p : Pipeline) : List String :=
  if p.assigns then [] else p.targets

end Pipeline

namespace Operand

/-- The variables that a pipeline in parentheses declares before its commands. -/
def groupTargets : Operand → List String
  | .group p => Pipeline.ownTargets p
  | _ => []

end Operand

namespace Pipeline

/-- The variables that a pipeline declares, those of the pipelines in its parentheses included. -/
def declared (p : Pipeline) : List String :=
  ownTargets p ++ (Operand.outlinePipeline p).flatMap Operand.groupTargets

end Pipeline

namespace Scope

/-- The scope after the variables of a pipeline that declares them. -/
theorem declare_eq_reverse (offset : Nat) (names : List String) (scope : Scope) :
    declare offset false names scope = .ok (names.reverse ++ scope) := by
  induction names generalizing scope with
  | nil => rfl
  | cons name names ih =>
    rw [declare, if_neg (by decide), ih, List.reverse_cons, List.append_assoc]
    rfl

/-- An assignment leaves the scope as it is. -/
theorem eq_of_declare {offset : Nat} {names : List String} {scope last : Scope}
    (h : declare offset true names scope = .ok last) : last = scope := by
  induction names generalizing scope with
  | nil => cases h; rfl
  | cons name names ih =>
    rw [declare, if_pos rfl] at h
    split at h
    · exact ih h
    · cases h

/-- A name in scope after the variables of a pipeline was in scope before or is declared. -/
theorem mem_of_declare {offset : Nat} {p : Pipeline} {scope last : Scope}
    (h : declare offset p.assigns p.targets scope = .ok last) {name : String} (hname : name ∈ last) :
    name ∈ scope ∨ name ∈ Pipeline.ownTargets p := by
  rw [Pipeline.ownTargets]
  cases hassigns : p.assigns with
  | true =>
    rw [hassigns] at h
    exact Or.inl (eq_of_declare h ▸ hname)
  | false =>
    rw [hassigns, declare_eq_reverse] at h
    cases h
    rcases List.mem_append.mp hname with hname | hname
    · exact Or.inr (List.mem_reverse.mp hname)
    · exact Or.inl hname

/-- What a check of some commands that passes does: it checks the first of them, and then the others. -/
theorem afterCommands_cons_eq_ok {offset stage : Nat} {scope last : Scope} {command : List Operand}
    {commands : List (List Operand)} (h : afterCommands offset stage scope (command :: commands) = .ok last) :
    ∃ mid, afterCommand offset scope command = .ok mid ∧ afterCommands offset (stage + 1) mid commands = .ok last := by
  rw [afterCommands] at h
  split at h
  · cases h
  · exact bind_eq_ok.mp h

/-- What a check of a pipeline that passes does: it checks the commands, counts the variables and declares them. -/
theorem afterPipeline_eq_ok {offset : Nat} {place : PipelinePlace} {scope last : Scope} {p : PipelineOf Operand}
    (h : afterPipeline offset place scope p = .ok last) :
    ∃ mid, afterCommands offset 1 scope p.commands = .ok mid ∧ p.targets.length ≤ mostVariables place ∧
      declare offset p.assigns p.targets mid = .ok last := by
  rw [afterPipeline] at h
  split at h
  · cases h
  · obtain ⟨mid, hmid, h⟩ := bind_eq_ok.mp h
    dsimp only at h
    split at h
    · cases h
    · rename_i hcount
      exact ⟨mid, hmid, Nat.le_of_not_lt hcount, h⟩

mutual

/-- A name in scope after an operand was in scope before or is declared in the operand. -/
theorem mem_of_afterOperand {offset : Nat} {scope last : Scope} {operand : Operand}
    (h : afterOperand offset scope operand = .ok last) {name : String} (hname : name ∈ last) :
    name ∈ scope ∨ name ∈ operand.outline.flatMap Operand.groupTargets := by
  match operand with
  | .group p =>
    rw [afterOperand] at h
    exact mem_of_afterPipeline h hname
  | .variable x path =>
    rw [afterOperand] at h
    split at h
    · cases h; exact Or.inl hname
    · cases h
  | .function x =>
    rw [afterOperand] at h
    split at h
    · cases h; exact Or.inl hname
    · cases h
  | .bool _ | .number _ _ | .string _ | .nil | .dot | .field _ =>
    cases h
    exact Or.inl hname

/-- A name in scope after the operands of a command was in scope before or is declared in one of them. -/
theorem mem_of_afterCommand {offset : Nat} {scope last : Scope} {operands : List Operand}
    (h : afterCommand offset scope operands = .ok last) {name : String} (hname : name ∈ last) :
    name ∈ scope ∨ name ∈ (Operand.outlineCommand operands).flatMap Operand.groupTargets := by
  match operands with
  | [] => cases h; exact Or.inl hname
  | operand :: operands =>
    rw [afterCommand] at h
    obtain ⟨mid, hmid, h⟩ := bind_eq_ok.mp h
    rw [Operand.outlineCommand, List.flatMap_append, List.mem_append]
    rcases mem_of_afterCommand h hname with hname | hname
    · rcases mem_of_afterOperand hmid hname with hname | hname
      · exact Or.inl hname
      · exact Or.inr (Or.inl hname)
    · exact Or.inr (Or.inr hname)

/-- A name in scope after some commands was in scope before or is declared in one of them. -/
theorem mem_of_afterCommands {offset stage : Nat} {scope last : Scope} {commands : List (List Operand)}
    (h : afterCommands offset stage scope commands = .ok last) {name : String} (hname : name ∈ last) :
    name ∈ scope ∨ name ∈ (Operand.outlineCommands commands).flatMap Operand.groupTargets := by
  match commands with
  | [] => cases h; exact Or.inl hname
  | command :: commands =>
    obtain ⟨mid, hmid, h⟩ := afterCommands_cons_eq_ok h
    rw [Operand.outlineCommands, List.flatMap_append, List.mem_append]
    rcases mem_of_afterCommands h hname with hname | hname
    · rcases mem_of_afterCommand hmid hname with hname | hname
      · exact Or.inl hname
      · exact Or.inr (Or.inl hname)
    · exact Or.inr (Or.inr hname)

/-- A name in scope after a pipeline was in scope before or is declared in the pipeline. -/
theorem mem_of_afterPipeline {offset : Nat} {place : PipelinePlace} {scope last : Scope} {p : PipelineOf Operand}
    (h : afterPipeline offset place scope p = .ok last) {name : String} (hname : name ∈ last) :
    name ∈ scope ∨ name ∈ Pipeline.declared p := by
  match p with
  | ⟨targets, assigns, commands⟩ =>
    obtain ⟨mid, hmid, _, h⟩ := afterPipeline_eq_ok h
    rw [Pipeline.declared, List.mem_append]
    rcases mem_of_declare (p := ⟨targets, assigns, commands⟩) h hname with hname | hname
    · rcases mem_of_afterCommands hmid hname with hname | hname
      · exact Or.inl hname
      · exact Or.inr (Or.inr hname)
    · exact Or.inr (Or.inl hname)

end

/-- The scope after an operand that may stand alone is the scope before it, and a variable that is the operand is in
scope. -/
theorem afterOperand_of_standsAlone {offset : Nat} {scope last : Scope} {operand : Operand}
    (halone : operand.standsAlone = true) (h : afterOperand offset scope operand = .ok last) :
    last = scope ∧ ∀ name path, operand = .variable name path → name ∈ scope := by
  match operand with
  | .function _ | .group _ => cases halone
  | .variable name path =>
    rw [afterOperand] at h
    split at h
    · rename_i hname
      cases h
      exact ⟨rfl, fun _ _ he => by cases he; exact hname⟩
    · cases h
  | .bool _ | .number _ _ | .string _ | .nil | .dot | .field _ =>
    cases h
    exact ⟨rfl, fun _ _ he => by cases he⟩

/-- A pipeline of one operand that may stand alone brings into scope the variables that it declares and no others, at most
as many as its place allows. A variable that is the operand is in scope before. -/
theorem afterPipeline_of_operand {offset : Nat} {place : PipelinePlace} {scope last : Scope} {targets : List String}
    {operand : Operand} (halone : operand.standsAlone = true)
    (h : afterPipeline offset place scope ⟨targets, false, [[operand]]⟩ = .ok last) :
    last = targets.reverse ++ scope ∧ targets.length ≤ mostVariables place ∧
      ∀ name path, operand = .variable name path → name ∈ scope := by
  obtain ⟨mid, hmid, hcount, hdeclare⟩ := afterPipeline_eq_ok h
  have hoperand : afterOperand offset scope operand = .ok mid := by
    obtain ⟨after, hafter, hrest⟩ := afterCommands_cons_eq_ok hmid
    cases hrest
    rw [afterCommand] at hafter
    obtain ⟨_, hoperand, hrest⟩ := bind_eq_ok.mp hafter
    cases hrest
    exact hoperand
  obtain ⟨rfl, hvariable⟩ := afterOperand_of_standsAlone halone hoperand
  rw [declare_eq_reverse offset targets] at hdeclare
  cases hdeclare
  exact ⟨rfl, hcount, hvariable⟩

/-- A pipeline with an operand in an action leaves the scope as it is, and a variable that is its operand is in scope. -/
theorem afterPipeline_of_outputOperand {pipeline : Pipeline} {operand : Operand} {offset : Nat} {place : PipelinePlace}
    {scope last : Scope} (hoperand : Pipeline.outputOperand pipeline = .ok operand)
    (h : afterPipeline offset place scope pipeline = .ok last) :
    last = scope ∧ ∀ name path, operand = .variable name path → name ∈ scope := by
  obtain ⟨rfl, halone⟩ := Pipeline.outputOperand_eq_ok.mp hoperand
  obtain ⟨hlast, _, hvariable⟩ := afterPipeline_of_operand halone h
  exact ⟨hlast, hvariable⟩

/-- A pipeline with an operand in a block brings its own variables into scope, no more than the block allows, and a variable
that is its operand is in scope before. -/
theorem afterPipeline_of_controlOperand {pipeline : Pipeline} {operand : Operand} {offset : Nat} {place : PipelinePlace}
    {scope inner : Scope} (hoperand : Pipeline.controlOperand pipeline = .ok operand)
    (h : afterPipeline offset place scope pipeline = .ok inner) :
    inner = pipeline.targets.reverse ++ scope ∧ pipeline.targets.length ≤ mostVariables place ∧
      ∀ name path, operand = .variable name path → name ∈ scope := by
  obtain ⟨targets, assigns, commands⟩ := pipeline
  obtain ⟨hassigns, hcommands, halone⟩ := Pipeline.controlOperand_eq_ok.mp hoperand
  cases hassigns
  cases hcommands
  exact afterPipeline_of_operand halone h

end Scope

end QueryTemplate
