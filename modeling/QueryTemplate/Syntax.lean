import QueryTemplate.Number

/-!
# Templates as trees

A template is a list of nodes: text, actions that insert a value, and blocks that hold nodes of their own. Wherever a
value is produced stands a pipeline, one or more commands joined by `|`, each a row of operands.
-/

namespace QueryTemplate

/-- A pipeline over operands of type `α`: `$x, $y := command | command`. -/
structure PipelineOf (α : Type) where
  /-- The variables that are declared or assigned, with their dollar signs. -/
  targets : List String
  /-- Whether the variables are assigned with `=` instead of declared with `:=`. -/
  assigns : Bool
  commands : List (List α)
deriving DecidableEq

/-- What a command is made of. -/
inductive Operand where
  | bool (b : Bool)
  /-- A number or a character constant, with its spelling. -/
  | number (spelling : String) (value : Number)
  | string (s : String)
  | nil
  | dot
  /-- `.A.B`, a path below the dot. -/
  | field (path : List String)
  /-- `$x.A.B`, a path below a variable. -/
  | variable (name : String) (path : List String)
  /-- The name of a function. -/
  | function (name : String)
  /-- A pipeline in parentheses. -/
  | group (pipeline : PipelineOf Operand)

/-- A pipeline of a template. -/
abbrev Pipeline := PipelineOf Operand

/-- One stage of a pipeline: an operand and the operands it is applied to. -/
abbrev Command := List Operand

/-- The three constructs that hold nodes. -/
inductive BlockKind where
  /-- `if`: the body stands when the value is true. -/
  | cond
  /-- `range`: the body stands once for each element. -/
  | loop
  /-- `with`: the body stands, about the value, when the value is true. -/
  | focus
deriving DecidableEq

namespace BlockKind

/-- The word that opens a block. -/
def keyword : BlockKind → String
  | .cond => "if"
  | .loop => "range"
  | .focus => "with"

end BlockKind

/-- A node of a template. -/
inductive Node where
  | text (s : String)
  | action (pipeline : Pipeline)
  /-- A block with its body and the nodes after its `else`. -/
  | block (kind : BlockKind) (pipeline : Pipeline) (body otherwise : List Node)
  | comment (s : String)
  | breakLoop
  | continueLoop
  /-- An invocation of a named template. -/
  | template (name : String) (argument : Option Pipeline)

/-- The kinds of nodes, as messages name them. -/
inductive NodeKind where
  | text
  | action
  | block (kind : BlockKind)
  | comment
  | breakLoop
  | continueLoop
  | template
deriving DecidableEq

namespace NodeKind

def name : NodeKind → String
  | .text => "text"
  | .action => "action"
  | .block kind => kind.keyword
  | .comment => "comment"
  | .breakLoop => "break"
  | .continueLoop => "continue"
  | .template => "template"

end NodeKind

namespace Node

def kind : Node → NodeKind
  | .text _ => .text
  | .action _ => .action
  | .block kind _ _ _ => .block kind
  | .comment _ => .comment
  | .breakLoop => .breakLoop
  | .continueLoop => .continueLoop
  | .template _ _ => .template

end Node

end QueryTemplate
