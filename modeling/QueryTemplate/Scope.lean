import QueryTemplate.Error

/-!
# Names in scope

A pipeline may refer only to variables that are in scope and to the functions of the template language. Checking a
pipeline brings the variables that it declares into scope, those of pipelines in parentheses included, so the result of
a check is the new scope.
-/

namespace QueryTemplate

/-- The variables in scope, the innermost first. -/
abbrev Scope := List String

/-- The name of the variable that holds the parameter. -/
def rootName : String := "$"

/-- The functions of the template language. They may be named, although no call of one becomes SQL. -/
def functionNames : List String :=
  ["and", "call", "html", "index", "slice", "js", "len", "not", "or", "print", "printf", "println", "urlquery",
    "eq", "ge", "gt", "le", "lt", "ne"]

namespace Scope

/-- How many variables a pipeline may declare. -/
def mostVariables : PipelinePlace → Nat
  | .block .loop => 2
  | _ => 1

/-- Brings the variables of a pipeline into scope, or checks that they are, if they are assigned. -/
def declare (offset : Nat) (assigns : Bool) : List String → Scope → Except Error Scope
  | [], scope => .ok scope
  | name :: names, scope =>
    if assigns then
      if name ∈ scope then declare offset assigns names scope
      else .error (.parse offset (.undefinedVariable name))
    else declare offset assigns names (name :: scope)

/-- Whether a command may stand after the first in a pipeline: it may not begin with a literal or the dot. -/
def executable : List Operand → Bool
  | .bool _ :: _ | .number _ _ :: _ | .string _ :: _ | .nil :: _ | .dot :: _ => false
  | _ => true

mutual

/-- The scope after an operand. -/
def afterOperand (offset : Nat) (scope : Scope) : Operand → Except Error Scope
  | .variable name _ => if name ∈ scope then .ok scope else .error (.parse offset (.undefinedVariable name))
  | .function name => if name ∈ functionNames then .ok scope else .error (.parse offset (.undefinedFunction name))
  | .group pipeline => afterPipeline offset .group scope pipeline
  | _ => .ok scope

/-- The scope after the operands of a command. -/
def afterCommand (offset : Nat) (scope : Scope) : List Operand → Except Error Scope
  | [] => .ok scope
  | operand :: operands => do
    let scope ← afterOperand offset scope operand
    afterCommand offset scope operands

/-- The scope after the commands of a pipeline, the first of which is the given stage. -/
def afterCommands (offset : Nat) (stage : Nat) (scope : Scope) : List (List Operand) → Except Error Scope
  | [] => .ok scope
  | command :: commands => do
    if 1 < stage && !executable command then throw (.parse offset (.notExecutable stage))
    let scope ← afterCommand offset scope command
    afterCommands offset (stage + 1) scope commands

/-- The scope after a pipeline. -/
def afterPipeline (offset : Nat) (place : PipelinePlace) (scope : Scope) : PipelineOf Operand → Except Error Scope
  | ⟨targets, assigns, commands⟩ => do
    if commands.isEmpty then throw (.parse offset (.emptyPipeline place))
    let scope ← afterCommands offset 1 scope commands
    if mostVariables place < targets.length then throw (.parse offset (.tooManyVariables place))
    declare offset assigns targets scope

end

end Scope

end QueryTemplate
