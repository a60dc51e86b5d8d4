import QueryTemplate.Action.Grammar
import QueryTemplate.Proofs.Text.Reads

/-!
# What the grammar leaves out

The grammar reads no empty list where a list stands for something: a pipeline has commands, a command has operands and a
field has a path, also inside parentheses (`Reader.yields_pipeline`). The pipeline of an action was read as a pipeline
(`Action.isRead_of_ofBody`), so it is complete, too (`Action.IsRead.isComplete`).
-/

namespace QueryTemplate

namespace Pipeline

/-- A pipeline holds itself at its place, and the pipelines in its parentheses. -/
inductive Contains : PipelinePlace → Pipeline → PipelinePlace → Pipeline → Prop where
  | itself (place : PipelinePlace) (p : Pipeline) : Contains place p place p
  | group {place place' : PipelinePlace} {p q r : Pipeline} {command : Command} :
      command ∈ p.commands → .group q ∈ command → Contains .group q place' r → Contains place p place' r

/-- A pipeline has commands, its commands have operands and its fields have paths. -/
structure IsComplete (p : Pipeline) : Prop where
  commands : p.commands ≠ []
  operands : ∀ command ∈ p.commands, command ≠ []
  paths : ∀ command ∈ p.commands, ∀ path, Operand.field path ∈ command → path ≠ []

/-- A pipeline and the pipelines in its parentheses are complete. -/
def IsCompleteWithin (p : Pipeline) : Prop :=
  ∀ place place' q, Contains place p place' q → IsComplete q

end Pipeline

/-- An operand has what its kind needs, and inside its parentheses stand complete pipelines. -/
def Operand.IsComplete : Operand → Prop
  | .field path => path ≠ []
  | .group p => Pipeline.IsCompleteWithin p
  | _ => True

/-- The pipeline of an action. -/
def Action.pipeline? : Action → Option Pipeline
  | .output p | .opening _ p | .otherwise (some (_, p)) | .template _ (some p) => some p
  | _ => none

/-- A pipeline of commands with complete operands is complete. -/
theorem Pipeline.isCompleteWithin_of_operands {p : Pipeline} (hcommands : p.commands ≠ [])
    (h : ∀ command ∈ p.commands, command ≠ [] ∧ ∀ operand ∈ command, operand.IsComplete) : IsCompleteWithin p := by
  intro place place' q hq
  cases hq with
  | itself =>
    refine ⟨hcommands, fun command hcommand => (h command hcommand).1, fun command hcommand path hpath => ?_⟩
    exact (h command hcommand).2 _ hpath
  | group hcommand hgroup hq => exact (h _ hcommand).2 _ hgroup _ _ _ hq

namespace Reader

/-- A pipeline has commands and its commands have operands, which are as they are read. -/
theorem yields_operands {group : Reader Pipeline} {V : Operand → Prop} (h : (operandOver group).Yields V) :
    (pipelineOver group).Yields fun p =>
      p.commands ≠ [] ∧ ∀ command ∈ p.commands, command ≠ [] ∧ ∀ operand ∈ command, V operand := by
  have hfurther : (furtherOperandOver group).Yields V := yields_andThen fun _ => h
  have hcommand : (commandOver group).Yields fun command => command ≠ [] ∧ ∀ operand ∈ command, V operand :=
    h.andThen fun _ hfirst => hfurther.many.andThen fun _ hmore =>
      yields_succeed ⟨List.cons_ne_nil _ _, List.forall_mem_cons.mpr ⟨hfirst, hmore⟩⟩
  have hstage : (furtherCommandOver group).Yields fun command => command ≠ [] ∧ ∀ operand ∈ command, V operand :=
    yields_andThen (p := blanks) fun _ => yields_andThen (p := char '|') fun _ => yields_andThen fun _ => hcommand
  exact yields_andThen fun _ => hcommand.andThen fun _ hfirst => hstage.many.andThen fun _ hmore =>
    yields_succeed ⟨List.cons_ne_nil _ _, List.forall_mem_cons.mpr ⟨hfirst, hmore⟩⟩

/-- The fields that are read have paths, and the pipelines in parentheses are as they are read. -/
theorem yields_operandOver {group : Reader Pipeline} {V : Pipeline → Prop} (hgroup : group.Yields V) :
    (operandOver group).Yields fun e => (∀ path, e = .field path → path ≠ []) ∧ ∀ p, e = .group p → V p := by
  have hfield : field.Yields fun path => path ≠ [] :=
    yields_andThen fun _ => yields_andThen fun _ => yields_succeed (List.cons_ne_nil _ _)
  have hconstant : ∀ word e, (∀ path, e ≠ Operand.field path) → (∀ p, e ≠ Operand.group p) →
      (constant word e).Yields fun e => (∀ path, e = .field path → path ≠ []) ∧ ∀ p, e = .group p → V p :=
    fun _ _ hfield hgroup => yields_andThen fun _ =>
      yields_succeed ⟨fun path h => absurd h (hfield path), fun p h => absurd h (hgroup p)⟩
  refine yields_firstOf (List.forall_mem_map.mpr fun form _ => ?_)
  cases form with
  | bool b => cases b <;> exact hconstant _ _ nofun nofun
  | nil => exact hconstant _ _ nofun nofun
  | string | character | number | dot | function => exact yields_andThen fun _ => yields_succeed ⟨nofun, nofun⟩
  | field => exact hfield.andThen fun _ hpath => yields_succeed ⟨fun _ h => Operand.field.inj h ▸ hpath, nofun⟩
  | variablePath => exact yields_andThen fun _ => yields_andThen fun _ => yields_succeed ⟨nofun, nofun⟩
  | group =>
    exact yields_andThen fun _ => yields_andThen fun _ => hgroup.andThen fun _ hp => yields_andThen fun _ =>
      yields_andThen fun _ => yields_succeed ⟨nofun, fun _ h => Operand.group.inj h ▸ hp⟩

/-- A pipeline is complete if the pipelines in its parentheses are. -/
theorem yields_pipelineOver {group : Reader Pipeline} (hgroup : group.Yields Pipeline.IsCompleteWithin) :
    (pipelineOver group).Yields Pipeline.IsCompleteWithin := by
  have hoperand : (operandOver group).Yields Operand.IsComplete := by
    intro s e rest h
    obtain ⟨hfield, hinside⟩ := yields_operandOver hgroup s e rest h
    cases e with
    | field path => exact hfield path rfl
    | group p => exact hinside p rfl
    | _ => trivial
  intro s p rest h
  obtain ⟨hcommands, hoperands⟩ := yields_operands hoperand s p rest h
  exact Pipeline.isCompleteWithin_of_operands hcommands hoperands

/-- By induction on the depth of the parentheses. -/
theorem yields_pipelineWithin (depth : Nat) : (pipelineWithin depth).Yields Pipeline.IsCompleteWithin := by
  induction depth with
  | zero => exact yields_pipelineOver fun _ _ _ h => by cases h
  | succ depth ih => exact yields_pipelineOver ih

/-- Whatever is read as a pipeline is complete, also inside its parentheses. -/
theorem yields_pipeline : pipeline.Yields Pipeline.IsCompleteWithin :=
  fun s p rest h => yields_pipelineWithin s.length s p rest h

end Reader

/-! ## The pipeline of an action -/

/-- The reader for pipelines reads the pipeline from some text. -/
def Pipeline.IsRead (p : Pipeline) : Prop :=
  ∃ s rest, Reader.pipeline s = .done p rest

/-- The pipeline of an action was read as a pipeline. -/
def Action.IsRead (a : Action) : Prop :=
  ∀ p, a.pipeline? = some p → p.IsRead

/-- Nothing is said of an action without a pipeline. -/
theorem Action.isRead_of_none {a : Action} (h : a.pipeline? = none) : a.IsRead :=
  fun p hp => by rw [h] at hp; cases hp

/-- The one pipeline of an action was read. -/
theorem Action.isRead_of_some {a : Action} {p : Pipeline} (h : a.pipeline? = some p) (hp : p.IsRead) : a.IsRead :=
  fun q hq => by rw [h] at hq; cases hq; exact hp

namespace Reader

/-- What is read as a pipeline was read as one. -/
theorem yields_isRead_pipeline : pipeline.Yields Pipeline.IsRead :=
  fun s _ rest h => ⟨s, rest, h⟩

/-- The pipeline of a block was read as a pipeline. -/
theorem yields_opening (kind : BlockKind) : (opening kind).Yields fun chained => chained.2.IsRead :=
  yields_andThen fun _ => yields_andThen fun _ => yields_isRead_pipeline.andThen fun _ hp => yields_succeed hp

/-- So was the pipeline of a block that is chained to an `else`. -/
theorem yields_isRead_otherwise : otherwise.Yields Action.IsRead := by
  have hchained : chainedOpening.Yields fun chained => chained.2.IsRead := by
    refine yields_andThen fun _ => yields_firstOf fun p hp => ?_
    simp only [List.mem_cons, List.not_mem_nil, or_false] at hp
    rcases hp with rfl | rfl <;> exact yields_opening _
  refine yields_andThen fun _ => hchained.optional.andThen fun chained hread => yields_succeed ?_
  cases chained with
  | none => exact Action.isRead_of_none rfl
  | some chained => exact Action.isRead_of_some rfl (hread chained rfl)

/-- So was the argument of a template, if there is one. -/
theorem yields_isRead_invocation : invocation.Yields Action.IsRead := by
  have hargument : argument.Yields Pipeline.IsRead := yields_andThen fun _ => yields_isRead_pipeline
  refine yields_andThen fun _ => yields_andThen fun _ => yields_andThen fun name =>
    hargument.optional.andThen fun argument hread => yields_succeed ?_
  cases argument with
  | none => exact Action.isRead_of_none rfl
  | some p => exact Action.isRead_of_some rfl (hread p rfl)

/-- Whatever pipeline an action has, it was read as a pipeline. -/
theorem yields_isRead : action.Yields Action.IsRead := by
  refine yields_firstOf (List.forall_mem_map.mpr fun form _ => ?_)
  cases form with
  | opening kind => exact (yields_opening kind).andThen fun _ hp => yields_succeed (Action.isRead_of_some rfl hp)
  | otherwise => exact yields_isRead_otherwise
  | ending | breakLoop | continueLoop => exact yields_andThen fun _ => yields_succeed (Action.isRead_of_none rfl)
  | invocation => exact yields_isRead_invocation
  | definition word =>
    exact yields_andThen fun _ => yields_andThen fun _ => yields_succeed (Action.isRead_of_none rfl)
  | output => exact yields_isRead_pipeline.andThen fun _ hp => yields_succeed (Action.isRead_of_some rfl hp)

end Reader

/-- What holds of every action that is read holds of the action that a body is. -/
theorem Action.of_ofBody {V : Action → Prop} (hV : Reader.action.Yields V) {body : List Char} {a : Action}
    (h : ofBody body = .ok a) : V a := by
  have hspaced : (Reader.blanks.andThen fun _ => Reader.action.andThen fun a => Reader.blanks.andThen fun _ =>
      Reader.succeed a).Yields V :=
    Reader.yields_andThen fun _ => hV.andThen fun _ ha => Reader.yields_andThen fun _ => Reader.yields_succeed ha
  rw [ofBody] at h
  split at h
  · rename_i hread
    cases h
    exact hspaced body _ [] hread
  all_goals cases h

/-- The pipeline of the action that a body is was read as a pipeline. -/
theorem Action.isRead_of_ofBody {body : List Char} {a : Action} (h : ofBody body = .ok a) : a.IsRead :=
  of_ofBody Reader.yields_isRead h

/-- The pipeline of an action is complete. -/
def Action.IsComplete (a : Action) : Prop :=
  ∀ p, a.pipeline? = some p → Pipeline.IsCompleteWithin p

/-- What was read as a pipeline is complete. -/
theorem Action.IsRead.isComplete {a : Action} (h : a.IsRead) : a.IsComplete := by
  intro p hp
  obtain ⟨s, rest, hread⟩ := h p hp
  exact Reader.yields_pipeline s p rest hread

end QueryTemplate
