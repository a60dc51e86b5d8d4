import QueryTemplate.Parameter.Conversion
import QueryTemplate.Render.Operand
import QueryTemplate.Render.Rendered
import QueryTemplate.Scope
import QueryTemplate.Syntax.Text

/-!
# Templates without blocks

A template without blocks has one query text for all parameters. It is compiled once to this text and the paths of its
arguments (`StaticTemplate.compile`). Rendering looks the paths up, and of a parameter only the parts on these paths are
converted (`StaticTemplate.convert`).
-/

namespace QueryTemplate

/-- A compiled template: the text of its query, and for each placeholder in order the path of its argument below the
parameter. -/
structure StaticTemplate where
  query : String
  paths : List (List String)
deriving DecidableEq

namespace StaticTemplate

/-- Nothing. -/
def empty : StaticTemplate :=
  ⟨"", []⟩

/-- One part after the other. -/
def append (a b : StaticTemplate) : StaticTemplate :=
  ⟨a.query ++ b.query, a.paths ++ b.paths⟩

instance : Append StaticTemplate := ⟨append⟩

/-- The path below the parameter that an operand stands for. Without blocks the dot is the parameter, and no variable
but the root is bound. -/
def pathOf : Operand → Except Error (List String)
  | .dot => .ok []
  | .field path => .ok path
  | .variable name path => if name = rootName then .ok path else .error (.unsupported .freeVariable)
  | _ => .error .functionCall

/-- The part of a template that an operand becomes: the text of a literal, or a placeholder. -/
def ofOperand (operand : Operand) : Except Error StaticTemplate :=
  match operand.literalText? with
  | some text => .ok ⟨text, []⟩
  | none => do return ⟨placeholder, [← pathOf operand]⟩

/-- The part of a template that a node becomes. -/
def ofNode : Node → Except Error StaticTemplate
  | .text s => .ok ⟨s, []⟩
  | .action pipeline => do ofOperand (← Pipeline.outputOperand pipeline)
  | .comment _ => .ok empty
  | node => .error (.unsupportedNode node.kind)

/-- Compiles a list of nodes without blocks. -/
def compile : List Node → Except Error StaticTemplate
  | [] => .ok empty
  | node :: nodes => do
    let first ← ofNode node
    return first ++ (← compile nodes)

/-- The parts of a parameter that the template needs. -/
def pathTree (t : StaticTemplate) : PathTree :=
  .ofPaths t.paths

/-- Converts the parts of a parameter that the template needs. -/
def convert (t : StaticTemplate) (p : Parameter) : Except Error Value :=
  p.convert t.pathTree

/-- A path as messages show it: a point for the parameter itself. -/
def describe (path : List String) : String :=
  if path.isEmpty then "." else pathText path

/-- The arguments at some paths of a parameter. -/
def arguments (policy : MissingValue) (v : Value) : List (List String) → Except Error (List Value)
  | [] => .ok []
  | path :: paths => do
    let argument ← Value.extract policy (describe path) (v.lookup? path)
    return argument :: (← arguments policy v paths)

/-- Renders the template from a value. -/
def render (t : StaticTemplate) (options : Options) (v : Value) : Except Error Rendered := do
  return ⟨t.query, ← arguments options.missingValue v t.paths⟩

end StaticTemplate

end QueryTemplate
