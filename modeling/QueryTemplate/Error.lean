import QueryTemplate.Syntax
import QueryTemplate.Text.Quoted

/-!
# Errors

What can go wrong when a template is built or rendered, by cause. The wording of each cause stands in the `message`
function of its type.
-/

namespace QueryTemplate

/-- Where a pipeline stands. -/
inductive PipelinePlace where
  | action
  | block (kind : BlockKind)
  | template
  | group
deriving DecidableEq

namespace PipelinePlace

def text : PipelinePlace → String
  | .action => "command"
  | .block kind => kind.keyword
  | .template => "template clause"
  | .group => "parenthesized pipeline"

end PipelinePlace

/-- What is wrong with the source of a template. -/
inductive SyntaxError where
  | unclosedAction
  | unclosedComment
  /-- Something stands between the end of a comment and the closing delimiter. -/
  | commentNotAlone
  | unterminatedString
  | unterminatedRawString
  | unexpectedChar (c : Char)
  /-- The action ends where an operand is expected. -/
  | missingOperand
  | emptyPipeline (place : PipelinePlace)
  /-- A stage of a pipeline, counted from one, begins with a literal or the dot. -/
  | notExecutable (stage : Nat)
  | undefinedVariable (name : String)
  | undefinedFunction (name : String)
  | tooManyVariables (place : PipelinePlace)
  | unexpectedEnd
  | unexpectedElse
  /-- A second `else` in one block. -/
  | repeatedElse
  | mismatchedElse (chained block : BlockKind)
  /-- The source ends inside a block. -/
  | unclosedBlock
  | breakOutsideLoop
  | continueOutsideLoop
  | definition (keyword : String)
deriving DecidableEq

namespace SyntaxError

/-- A word as an action without anything else. -/
def actionText (word : String) : String :=
  String.ofList ['{', '{'] ++ word ++ String.ofList ['}', '}']

def message : SyntaxError → String
  | .unclosedAction => "unclosed action"
  | .unclosedComment => "unclosed comment"
  | .commentNotAlone => "comment ends before closing delimiter"
  | .unterminatedString => "unterminated quoted string"
  | .unterminatedRawString => "unterminated raw quoted string"
  | .unexpectedChar c => "unexpected " ++ quoteChar c ++ " in command"
  | .missingOperand => "missing value for command"
  | .emptyPipeline place => "missing value for " ++ place.text
  | .notExecutable stage => "non executable command in pipeline stage " ++ toString stage
  | .undefinedVariable name => "undefined variable " ++ quoteString name
  | .undefinedFunction name => "function " ++ quoteString name ++ " not defined"
  | .tooManyVariables place => "too many declarations in " ++ place.text
  | .unexpectedEnd => "unexpected " ++ actionText "end"
  | .unexpectedElse => "unexpected " ++ actionText "else"
  | .repeatedElse => "expected end; found " ++ actionText "else"
  | .mismatchedElse chained block =>
    "unexpected " ++ actionText ("else " ++ chained.keyword) ++ " in " ++ block.keyword
  | .unclosedBlock => "unexpected EOF"
  | .breakOutsideLoop => actionText "break" ++ " outside " ++ actionText "range"
  | .continueOutsideLoop => actionText "continue" ++ " outside " ++ actionText "range"
  | .definition keyword => actionText keyword ++ " is unsupported"

end SyntaxError

/-- Constructs that a template may contain but that do not become SQL. -/
inductive Construct where
  | assignment
  | declaration
  | emptyPipeline
  | emptyCommand
  | group
  /-- A variable other than the root in a template without blocks. -/
  | freeVariable
deriving DecidableEq

namespace Construct

def text : Construct → String
  | .assignment => "variable assignment"
  | .declaration => "variable declaration outside if, range or with"
  | .emptyPipeline => "empty pipeline"
  | .emptyCommand => "empty command"
  | .group => "parenthesized pipeline"
  | .freeVariable => "variable reference outside range or with"

end Construct

/-- Why a template was not built or not rendered. -/
inductive Error where
  /-- No line of source was given. -/
  | emptyTemplate
  /-- The source is malformed at a byte offset. -/
  | parse (offset : Nat) (cause : SyntaxError)
  /-- A pipeline of more than one command. -/
  | chainedPipeline
  /-- A command of more than one operand, or a function name. -/
  | functionCall
  | unsupportedNode (kind : NodeKind)
  | unsupported (construct : Construct)
  /-- A loop over something that has no elements. -/
  | invalidRangeValue
  /-- A reference that resolves to nothing, by its text. -/
  | missingValue (reference : String)
  /-- A parameter or one of its values does not convert. -/
  | conversion (message : String)
  /-- The options document is malformed. What is wrong with it is left out: the words for that are those of the parser for
  such documents. -/
  | config
deriving DecidableEq

namespace Error

def message : Error → String
  | .emptyTemplate => "template is empty"
  | .parse offset cause => "Parse error at position " ++ toString offset ++ ": " ++ cause.message
  | .chainedPipeline => "chained pipeline is unsupported"
  | .functionCall => "function or method calling is unsupported"
  | .unsupportedNode kind => "unsupported node type: " ++ kind.name
  | .unsupported construct => "unsupported construct: " ++ construct.text
  | .invalidRangeValue => "range value should be array, slice or map"
  | .missingValue reference => "no value for " ++ reference
  | .conversion message => "value conversion failed: " ++ message
  | .config => "Configuration error"

end Error

end QueryTemplate
