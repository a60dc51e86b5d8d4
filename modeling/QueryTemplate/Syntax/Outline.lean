import QueryTemplate.Syntax

/-!
# The outline of a tree

A tree read in order: each node before what it holds, which is its pipeline, its body and its alternative. The operands
of a pipeline come in order too, each before the operands inside its parentheses.
-/

namespace QueryTemplate

/-- An entry of an outline. -/
inductive OutlineEntry where
  | node (kind : NodeKind)
  | operand (operand : Operand)

namespace Operand

mutual

/-- An operand and the operands inside it. -/
def outline : Operand → List Operand
  | .group pipeline => .group pipeline :: outlinePipeline pipeline
  | operand => [operand]

/-- The operands of a pipeline. -/
def outlinePipeline : PipelineOf Operand → List Operand
  | ⟨_, _, commands⟩ => outlineCommands commands

/-- The operands of some commands. -/
def outlineCommands : List (List Operand) → List Operand
  | [] => []
  | command :: commands => outlineCommand command ++ outlineCommands commands

/-- The operands of a command. -/
def outlineCommand : List Operand → List Operand
  | [] => []
  | operand :: operands => operand.outline ++ outlineCommand operands

end

end Operand

namespace Pipeline

/-- The entries for the operands of a pipeline. -/
def outline (p : Pipeline) : List OutlineEntry :=
  (Operand.outlinePipeline p).map .operand

end Pipeline

namespace Node

mutual

/-- A node and what it holds. -/
def outline : Node → List OutlineEntry
  | .action pipeline => .node .action :: Pipeline.outline pipeline
  | .block kind pipeline body otherwise =>
    .node (.block kind) :: Pipeline.outline pipeline ++ outlineNodes body ++ outlineNodes otherwise
  | .template name (some pipeline) => .node (Node.template name (some pipeline)).kind :: Pipeline.outline pipeline
  | node => [.node node.kind]

/-- The nodes of a list and what they hold. -/
def outlineNodes : List Node → List OutlineEntry
  | [] => []
  | node :: nodes => node.outline ++ outlineNodes nodes

end

end Node

end QueryTemplate
