import QueryTemplate.Render.Operand
import QueryTemplate.Render.Rendered
import QueryTemplate.Scope
import QueryTemplate.Syntax.Text

/-!
# Templates with blocks

A template with blocks is walked anew for every value (`DynamicTemplate.render`). The walk carries an environment, in
which the dot is a variable like the others, and each block renders its body in an environment of its own, so bindings
end with the block.
-/

namespace QueryTemplate

/-- The name under which the dot is bound. -/
def dotName : String := "."

/-- Bindings of names to values, the newest first. -/
abbrev Env := List (String × Value)

namespace Env

/-- The value that a name is bound to. -/
def get? (env : Env) (name : String) : Option Value :=
  Value.field? name env

/-- The environment with one more binding. -/
def bind (env : Env) (name : String) (v : Value) : Env :=
  (name, v) :: env

/-- The environment in which a template is rendered: the dot and the root are the parameter. -/
def initial (v : Value) : Env :=
  [(dotName, v), (rootName, v)]

/-- What an operand stands for; `none` if it is a reference that leads nowhere. -/
def eval (env : Env) : Operand → Except Error (Option Value)
  | .bool b => .ok (some (.bool b))
  | .number _ n => .ok (some (.number n))
  | .string s => .ok (some (.string s))
  | .nil => .ok (some .null)
  | .dot => .ok (env.get? dotName)
  | .field path => .ok ((env.get? dotName).bind (Value.lookup? path))
  | .variable name path => .ok ((env.get? name).bind (Value.lookup? path))
  | .function _ => .error .functionCall
  | .group _ => .error (.unsupported .group)

/-- Binds the value of an `if` to the first variable of its pipeline. -/
def bindCond (env : Env) (names : List String) (v : Option Value) : Env :=
  match names, v with
  | name :: _, some v => env.bind name v
  | _, _ => env

/-- Binds the value of a `with` to the first variable of its pipeline, or else to the dot. -/
def bindFocus (env : Env) (names : List String) (v : Value) : Env :=
  env.bind (names.headD dotName) v

/-- Binds an element of a loop: to the dot, to the one variable, or with its key to two variables. -/
def bindElement (env : Env) (names : List String) (key element : Value) : Env :=
  match names with
  | [] => env.bind dotName element
  | [name] => env.bind name element
  | keyName :: name :: _ => (env.bind keyName key).bind name element

end Env

namespace DynamicTemplate

/-- An action: the text of a literal, or a placeholder with its argument. -/
def renderAction (policy : MissingValue) (env : Env) (pipeline : Pipeline) : Except Error Rendered := do
  let operand ← Pipeline.outputOperand pipeline
  match operand.literalText? with
  | some text => return .ofText text
  | none => return .ofArgument (← Value.extract policy operand.text (← env.eval operand))

/-- The value of the pipeline of a block. -/
def blockValue (env : Env) (pipeline : Pipeline) : Except Error (Option Value) := do
  env.eval (← Pipeline.controlOperand pipeline)

/-- Whether the value of a block holds; what is missing does not. -/
def holds : Option Value → Bool
  | some v => v.isTruthy
  | none => false

/-- The elements that a loop visits. -/
def elements (v : Option Value) : Except Error (List (Value × Value)) :=
  match v.bind Value.pairs? with
  | some pairs => .ok pairs
  | none => .error .invalidRangeValue

/-- The results of some renderings, one after the other, up to the first failure. -/
def concat {α : Type} (render : α → Except Error Rendered) : List α → Except Error Rendered
  | [] => .ok .empty
  | a :: as => do
    let first ← render a
    return first ++ (← concat render as)

mutual

/-- Renders a node. -/
def renderNode (policy : MissingValue) (env : Env) : Node → Except Error Rendered
  | .text s => .ok (.ofText s)
  | .action pipeline => renderAction policy env pipeline
  | .comment _ => .ok .empty
  | .block .cond pipeline body otherwise => do
    let v ← blockValue env pipeline
    if holds v then renderNodes policy (env.bindCond pipeline.targets v) body
    else renderNodes policy env otherwise
  | .block .loop pipeline body otherwise => do
    let pairs ← elements (← blockValue env pipeline)
    if pairs.isEmpty then renderNodes policy env otherwise
    else concat (fun pair => renderNodes policy (env.bindElement pipeline.targets pair.1 pair.2) body) pairs
  | .block .focus pipeline body otherwise => do
    match ← blockValue env pipeline with
    | some v =>
      if v.isTruthy then renderNodes policy (env.bindFocus pipeline.targets v) body
      else renderNodes policy env otherwise
    | none => renderNodes policy env otherwise
  | .breakLoop => .error (.unsupportedNode .breakLoop)
  | .continueLoop => .error (.unsupportedNode .continueLoop)
  | .template _ _ => .error (.unsupportedNode .template)

/-- Renders nodes one after the other. -/
def renderNodes (policy : MissingValue) (env : Env) : List Node → Except Error Rendered
  | [] => .ok .empty
  | node :: nodes => do
    let first ← renderNode policy env node
    return first ++ (← renderNodes policy env nodes)

end

/-- Renders a list of nodes from a value. -/
def render (nodes : List Node) (options : Options) (v : Value) : Except Error Rendered :=
  renderNodes options.missingValue (.initial v) nodes

end DynamicTemplate

end QueryTemplate
