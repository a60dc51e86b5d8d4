import QueryTemplate.Action
import QueryTemplate.Action.Literal
import QueryTemplate.Error
import QueryTemplate.Text.Blank
import QueryTemplate.Text.Utf8

/-!
# The grammar of actions

An action is a pipeline or one of the forms that begin with a keyword. A pipeline is an optional list of variables, and
commands separated by `|`; a command is a row of operands separated by blanks; an operand may be a pipeline in
parentheses.

    action    = keyword form | pipeline
    pipeline  = [ $x [ , $y ] ( := | = ) ] command { | command }
    command   = operand { blanks operand }
    operand   = literal | .A.B | . | $x.A.B | ( pipeline ) | function

The forms of operands (`OperandForm`) and of actions (`ActionForm`) are tried in order. The readers are built from the reader
for what stands in parentheses (`operandOver`, `commandOver`, `pipelineOver`), and `pipelineWithin depth` allows parentheses
inside each other up to a depth. Each pair of parentheses takes a character, so the length of the text is always depth enough
(`pipeline`).
-/

namespace QueryTemplate

namespace Reader

/-- Any blanks. -/
def blanks : Reader Unit := do
  let _ ← takeWhile isBlank

/-- At least one blank. -/
def someBlanks : Reader Unit := do
  let _ ← satisfy isBlank
  blanks

/-- A word that is not the beginning of a longer name. -/
def keyword (word : String) : Reader Unit := do
  text word.toList
  notNext isNameChar

/-- A word that stands for something. -/
def constant {α : Type} (word : String) (a : α) : Reader α := do
  keyword word
  return a

/-- A name. -/
def name : Reader String := do
  let first ← satisfy isNameStart
  let more ← takeWhile isNameChar
  return String.ofList (first :: more)

/-- A dollar sign and the characters of a name, of which there may be none. -/
def variableName : Reader String := do
  let dollar ← char '$'
  let more ← takeWhile isNameChar
  return String.ofList (dollar :: more)

/-- One step of a path: a point and a name. -/
def step : Reader String := do
  let _ ← char '.'
  name

/-- A path of at least one step. -/
def field : Reader (List String) := do
  let first ← step
  let more ← many step
  return first :: more

/-- The second variable of a pipeline, after a comma. -/
def secondTarget : Reader String := do
  blanks
  let _ ← char ','
  blanks
  variableName

/-- The sign after the variables of a pipeline: whether it assigns them instead of declaring them. -/
def targetSign : Reader Bool :=
  firstOf [
    do text [':', '=']; return false,
    do let _ ← char '='; return true]

/-- The variables of a pipeline, and whether they are assigned instead of declared. -/
def targets : Reader (List String × Bool) := do
  let first ← variableName
  let second ← optional secondTarget
  blanks
  let assigns ← targetSign
  blanks
  return (first :: second.toList, assigns)

/-- A variable and a path below it. -/
def variableOperand : Reader Operand := do
  let name ← variableName
  let path ← many step
  return .variable name path

/-- A pipeline in parentheses, given a reader for pipelines. -/
def groupOperand (group : Reader Pipeline) : Reader Operand := do
  let _ ← char '('
  blanks
  let pipeline ← group
  blanks
  let _ ← char ')'
  return .group pipeline

end Reader

/-- A form of operands. -/
inductive OperandForm where
  | bool (b : Bool)
  | nil
  | string
  | character
  | number
  | field
  | dot
  | variablePath
  | group
  | function
deriving DecidableEq

namespace OperandForm

open Reader

/-- The reader for a form, given a reader for the pipelines in parentheses. -/
def reader (group : Reader Pipeline) : OperandForm → Reader Operand
  | .bool true => constant "true" (.bool true)
  | .bool false => constant "false" (.bool false)
  | .nil => constant "nil" .nil
  | .string => do let s ← stringLiteral; return .string s
  | .character => do
    let (c, spelling) ← withSpelling charConstant
    return .number (String.ofList spelling) (.int (Int64.ofNat c.toNat))
  | .number => do let (spelling, value) ← Reader.number; return .number (String.ofList spelling) value
  | .field => do let path ← Reader.field; return .field path
  | .dot => do let _ ← char '.'; return .dot
  | .variablePath => variableOperand
  | .group => groupOperand group
  | .function => do let name ← name; return .function name

/-- The forms in the order in which they are tried. -/
def all : List OperandForm :=
  [.bool true, .bool false, .nil, .string, .character, .number, .field, .dot, .variablePath, .group, .function]

end OperandForm

namespace Reader

/-- An operand, given a reader for the pipelines in parentheses. -/
def operandOver (group : Reader Pipeline) : Reader Operand :=
  firstOf (OperandForm.all.map (OperandForm.reader group))

/-- One more operand of a command, given a reader for the pipelines in parentheses. -/
def furtherOperandOver (group : Reader Pipeline) : Reader Operand := do
  someBlanks
  operandOver group

/-- A command, given a reader for the pipelines in parentheses. -/
def commandOver (group : Reader Pipeline) : Reader Command := do
  let first ← operandOver group
  let more ← many (furtherOperandOver group)
  return first :: more

/-- One more command of a pipeline, given a reader for the pipelines in parentheses. -/
def furtherCommandOver (group : Reader Pipeline) : Reader Command := do
  blanks
  let _ ← char '|'
  blanks
  commandOver group

/-- A pipeline, given a reader for the pipelines in parentheses. -/
def pipelineOver (group : Reader Pipeline) : Reader Pipeline := do
  let header ← optional targets
  let first ← commandOver group
  let more ← many (furtherCommandOver group)
  let (names, assigns) := header.getD ([], false)
  return ⟨names, assigns, first :: more⟩

/-- A pipeline with parentheses inside each other up to a depth. -/
def pipelineWithin : Nat → Reader Pipeline
  | 0 => fun s => pipelineOver (fun inner => .fail inner) s
  | depth + 1 => fun s => pipelineOver (fun inner => pipelineWithin depth inner) s

/-- A pipeline. -/
def pipeline : Reader Pipeline :=
  fun s => pipelineWithin s.length s

/-- The beginning of a block. -/
def opening (kind : BlockKind) : Reader (BlockKind × Pipeline) := do
  keyword kind.keyword
  blanks
  let p ← pipeline
  return (kind, p)

/-- The beginning of the block that an `else` is chained to. -/
def chainedOpening : Reader (BlockKind × Pipeline) := do
  someBlanks
  firstOf [opening .cond, opening .focus]

/-- `else`, perhaps followed by `if` or `with` and a pipeline. -/
def otherwise : Reader Action := do
  keyword "else"
  let chained ← optional chainedOpening
  return .otherwise chained

/-- The argument of a template. -/
def argument : Reader Pipeline := do
  someBlanks
  pipeline

/-- The invocation of a template. -/
def invocation : Reader Action := do
  keyword "template"
  blanks
  let name ← stringLiteral
  let argument ← optional argument
  return .template name argument

/-- The definition of a template, up to the end of the action. -/
def definition (word : String) : Reader Action := do
  keyword word
  let _ ← takeWhile fun _ => true
  return .definition word

end Reader

/-- A form of actions. -/
inductive ActionForm where
  | opening (kind : BlockKind)
  | otherwise
  | ending
  | breakLoop
  | continueLoop
  | invocation
  | definition (word : String)
  | output

namespace ActionForm

open Reader

/-- The reader for a form. -/
def reader : ActionForm → Reader Action
  | .opening kind => do let (kind, p) ← Reader.opening kind; return .opening kind p
  | .otherwise => Reader.otherwise
  | .ending => constant "end" .ending
  | .breakLoop => constant "break" .breakLoop
  | .continueLoop => constant "continue" .continueLoop
  | .invocation => Reader.invocation
  | .definition word => Reader.definition word
  | .output => do let p ← pipeline; return .output p

/-- The forms in the order in which they are tried. -/
def all : List ActionForm :=
  [.opening .cond, .opening .loop, .opening .focus, .otherwise, .ending, .breakLoop, .continueLoop, .invocation,
    .definition "define", .definition "block", .output]

end ActionForm

namespace Reader

/-- An action. -/
def action : Reader Action :=
  firstOf (ActionForm.all.map ActionForm.reader)

/-- An action with blanks around it. -/
def spacedAction : Reader Action := do
  blanks
  let a ← action
  blanks
  return a

end Reader

namespace Action

/-- Why a body is no action, from what is left of it at the place where it goes wrong. -/
def unexpected : List Char → SyntaxError
  | [] => .missingOperand
  | c :: _ => .unexpectedChar c

/-- The action that a body is, or the offset in it at which it goes wrong and why. -/
def ofBody (body : List Char) : Except (Nat × SyntaxError) Action :=
  match Reader.spacedAction body with
  | .done a [] => .ok a
  | .done _ place | .miss place | .fail place => .error (offsetIn body place, unexpected place)

end Action

end QueryTemplate
