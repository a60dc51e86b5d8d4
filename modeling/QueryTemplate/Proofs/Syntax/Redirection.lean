import QueryTemplate.Proofs.Render.Operand
import QueryTemplate.Render.Dynamic

/-!
# Redirected references

References to a name may be made to lead somewhere else, to what a path leads to below a target (`Redirection`). A
redirection reaches all references to the name but those in the bodies of blocks that bind the name anew
(`Node.redirectAll`): there it means something else. Redirecting the dot to a path below itself puts the path before
every field path, and redirecting a variable to another one renames it.
-/

namespace QueryTemplate

/-! ## Names -/

/-- The names that the body of a block binds anew: its variables, one or for a loop two, and without variables the dot.
A condition without a variable binds nothing. -/
def BlockKind.bound : BlockKind → List String → List String
  | .cond, names => names.take 1
  | .loop, [] => [dotName]
  | .loop, names => names.take 2
  | .focus, names => [names.headD dotName]

/-- What a block binds are its variables or the dot. -/
theorem BlockKind.mem_of_mem_bound {kind : BlockKind} {names : List String} {name : String}
    (h : name ∈ kind.bound names) : name ∈ names ∨ name = dotName := by
  cases kind with
  | cond => exact Or.inl (List.mem_of_mem_take h)
  | loop =>
    cases names with
    | nil => exact Or.inr (List.mem_singleton.mp h)
    | cons first names => exact Or.inl (List.mem_of_mem_take h)
  | focus =>
    cases names with
    | nil => exact Or.inr (List.mem_singleton.mp h)
    | cons first names => exact Or.inl (List.mem_singleton.mp h ▸ List.mem_cons_self)

namespace Operand

mutual

/-- The variables that occur in an operand. -/
def names : Operand → List String
  | .variable name _ => [name]
  | .group pipeline => namesOfPipeline pipeline
  | _ => []

/-- The variables that occur in a pipeline, as its own or in its operands. -/
def namesOfPipeline : PipelineOf Operand → List String
  | ⟨targets, _, commands⟩ => targets ++ namesOfCommands commands

/-- The variables that occur in some commands. -/
def namesOfCommands : List (List Operand) → List String
  | [] => []
  | command :: commands => namesOfCommand command ++ namesOfCommands commands

/-- The variables that occur in a command. -/
def namesOfCommand : List Operand → List String
  | [] => []
  | operand :: operands => operand.names ++ namesOfCommand operands

end

end Operand

namespace Node

mutual

/-- The variables that occur in a node, at any depth. -/
def names : Node → List String
  | .action pipeline => Operand.namesOfPipeline pipeline
  | .block _ pipeline body otherwise => Operand.namesOfPipeline pipeline ++ (namesAll body ++ namesAll otherwise)
  | .template _ (some pipeline) => Operand.namesOfPipeline pipeline
  | _ => []

/-- The variables that occur in a list of nodes, at any depth. -/
def namesAll : List Node → List String
  | [] => []
  | node :: nodes => names node ++ namesAll nodes

end

end Node

namespace Pipeline

/-- The variables of a pipeline occur in it. -/
theorem names_of_targets {p : Pipeline} {name : String} (h : name ∈ p.targets) : name ∈ Operand.namesOfPipeline p := by
  obtain ⟨targets, assigns, commands⟩ := p
  exact List.mem_append_left _ h

/-- The variables of the operand of a pipeline occur in the pipeline. -/
theorem names_of_operand {p : Pipeline} {operand : Operand} (h : p.commands = [[operand]]) {name : String}
    (hname : name ∈ operand.names) : name ∈ Operand.namesOfPipeline p := by
  obtain ⟨targets, assigns, commands⟩ := p
  cases h
  exact List.mem_append_right _ (List.mem_append_left _ (List.mem_append_left _ hname))

end Pipeline

/-! ## Redirections -/

/-- A change of references: those to a name are to lead to a path below a target. -/
structure Redirection where
  name : String
  target : String
  path : List String

/-- The reference to a path below a name. -/
def Operand.reference (name : String) (path : List String) : Operand :=
  if name = dotName then
    match path with
    | [] => .dot
    | _ => .field path
  else .variable name path

/-- What a reference to a path below the name becomes. -/
def Redirection.below (r : Redirection) (path : List String) : Operand :=
  .reference r.target (r.path ++ path)

namespace Operand

mutual

/-- An operand with its references redirected, those in parentheses included. -/
def redirect (r : Redirection) : Operand → Operand
  | .dot => if dotName = r.name then r.below [] else .dot
  | .field path => if dotName = r.name then r.below path else .field path
  | .variable name path => if name = r.name then r.below path else .variable name path
  | .group pipeline => .group (redirectPipeline r pipeline)
  | operand => operand

/-- A pipeline with the references of its operands redirected. -/
def redirectPipeline (r : Redirection) : PipelineOf Operand → PipelineOf Operand
  | ⟨targets, assigns, commands⟩ => ⟨targets, assigns, redirectCommands r commands⟩

/-- Commands with their references redirected. -/
def redirectCommands (r : Redirection) : List (List Operand) → List (List Operand)
  | [] => []
  | command :: commands => redirectCommand r command :: redirectCommands r commands

/-- A command with its references redirected. -/
def redirectCommand (r : Redirection) : List Operand → List Operand
  | [] => []
  | operand :: operands => operand.redirect r :: redirectCommand r operands

end

end Operand

namespace Node

mutual

/-- A node with its references redirected, but not in a body that binds the name anew. -/
def redirect (r : Redirection) : Node → Node
  | .action pipeline => .action (Operand.redirectPipeline r pipeline)
  | .block kind pipeline body otherwise =>
    .block kind (Operand.redirectPipeline r pipeline)
      (if r.name ∈ kind.bound pipeline.targets then body else redirectAll r body) (redirectAll r otherwise)
  | .template name (some pipeline) => .template name (some (Operand.redirectPipeline r pipeline))
  | .template name none => .template name none
  | .text s => .text s
  | .comment s => .comment s
  | .breakLoop => .breakLoop
  | .continueLoop => .continueLoop

/-- A list of nodes with its references redirected. -/
def redirectAll (r : Redirection) : List Node → List Node
  | [] => []
  | node :: nodes => redirect r node :: redirectAll r nodes

end

end Node

/-! ## The operands of redirected pipelines -/

namespace Operand

/-- A variable or a path may stand alone. -/
theorem standsAlone_reference (name : String) (path : List String) : (reference name path).standsAlone = true := by
  unfold reference
  split
  · split <;> rfl
  · rfl

/-- A variable or a path is no literal. -/
theorem literalText?_reference (name : String) (path : List String) : (reference name path).literalText? = none := by
  unfold reference
  split
  · split <;> rfl
  · rfl

/-- A redirected operand may stand alone if the operand may. -/
theorem standsAlone_redirect (r : Redirection) (operand : Operand) :
    (operand.redirect r).standsAlone = operand.standsAlone := by
  match operand with
  | .dot | .field _ | .variable _ _ =>
    rw [redirect]
    split
    · exact standsAlone_reference _ _
    · rfl
  | .bool _ | .number _ _ | .string _ | .nil | .function _ | .group _ => rfl

/-- Literals are not redirected, and nothing becomes one. -/
theorem literalText?_redirect (r : Redirection) (operand : Operand) :
    (operand.redirect r).literalText? = operand.literalText? := by
  match operand with
  | .dot | .field _ | .variable _ _ =>
    rw [redirect]
    split
    · exact literalText?_reference _ _
    · rfl
  | .bool _ | .number _ _ | .string _ | .nil | .function _ | .group _ => rfl

end Operand

namespace Pipeline

@[simp] theorem targets_redirect (r : Redirection) (p : Pipeline) :
    (Operand.redirectPipeline r p).targets = p.targets := by
  cases p
  rfl

@[simp] theorem assigns_redirect (r : Redirection) (p : Pipeline) :
    (Operand.redirectPipeline r p).assigns = p.assigns := by
  cases p
  rfl

/-- A command of more than one operand is a call. -/
theorem commandOperand_call (first second : Operand) (rest : Command) :
    commandOperand (first :: second :: rest) = .error .functionCall := by
  cases first <;> rfl

/-- The operand of a redirected command is the redirected operand of the command. -/
theorem commandOperand_redirect (r : Redirection) (command : Command) :
    commandOperand (Operand.redirectCommand r command) = (commandOperand command).map (Operand.redirect r) := by
  match command with
  | [] => rfl
  | [.function name] => rfl
  | [.group pipeline] => rfl
  | [.bool _] | [.number _ _] | [.string _] | [.nil] => rfl
  | [.dot] | [.field _] | [.variable _ _] =>
    refine commandOperand_eq_ok.mpr ⟨rfl, ?_⟩
    rw [Operand.standsAlone_redirect]
    rfl
  | first :: second :: rest =>
    rw [commandOperand_call, Operand.redirectCommand, Operand.redirectCommand, commandOperand_call]
    rfl

/-- The operand of a redirected pipeline is the redirected operand of the pipeline. -/
theorem singleOperand_redirect (r : Redirection) (p : Pipeline) :
    singleOperand (Operand.redirectPipeline r p) = (singleOperand p).map (Operand.redirect r) := by
  obtain ⟨targets, assigns, commands⟩ := p
  match commands with
  | [] => rfl
  | [command] => exact commandOperand_redirect r command
  | first :: second :: rest => rfl

/-- The operand of a block is that of its pipeline, redirected. -/
theorem controlOperand_redirect (r : Redirection) (p : Pipeline) :
    controlOperand (Operand.redirectPipeline r p) = (controlOperand p).map (Operand.redirect r) := by
  rw [controlOperand, controlOperand, assigns_redirect, singleOperand_redirect]
  split <;> rfl

/-- The operand of an action is that of its pipeline, redirected. -/
theorem outputOperand_redirect (r : Redirection) (p : Pipeline) :
    outputOperand (Operand.redirectPipeline r p) = (outputOperand p).map (Operand.redirect r) := by
  rw [outputOperand, outputOperand, assigns_redirect, targets_redirect, singleOperand_redirect]
  split
  · rfl
  · split <;> rfl

end Pipeline

end QueryTemplate
