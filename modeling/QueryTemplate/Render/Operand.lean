import QueryTemplate.Error

/-!
# The operand of a pipeline

Only pipelines of one command with one operand become SQL, and the operand may be neither a function nor a pipeline in
parentheses. Every other pipeline is refused, with the first reason that applies.
-/

namespace QueryTemplate

namespace Pipeline

/-- The operand of a command that stands alone. -/
def commandOperand : Command → Except Error Operand
  | [] => .error (.unsupported .emptyCommand)
  | [.function _] => .error .functionCall
  | [.group _] => .error (.unsupported .group)
  | [operand] => .ok operand
  | _ :: _ :: _ => .error .functionCall

/-- The operand of a pipeline that has one. -/
def singleOperand (p : Pipeline) : Except Error Operand :=
  match p.commands with
  | [] => .error (.unsupported .emptyPipeline)
  | [command] => commandOperand command
  | _ :: _ :: _ => .error .chainedPipeline

/-- The operand of a block. Its variables may be declared but not assigned. -/
def controlOperand (p : Pipeline) : Except Error Operand :=
  if p.assigns then .error (.unsupported .assignment) else singleOperand p

/-- The operand of an action, which neither declares nor assigns variables. -/
def outputOperand (p : Pipeline) : Except Error Operand :=
  if p.assigns then .error (.unsupported .assignment)
  else if !p.targets.isEmpty then .error (.unsupported .declaration)
  else singleOperand p

end Pipeline

end QueryTemplate
