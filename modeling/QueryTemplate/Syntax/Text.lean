import QueryTemplate.Syntax
import QueryTemplate.Text.Quoted

/-!
# The text of operands

An operand has the text by which messages name it (`Operand.text`). A literal has also the text that stands for it in
the query (`Operand.literalText?`): a number keeps its spelling, a string loses its quotes, and `nil` is `NULL`.
-/

namespace QueryTemplate

/-- A field path: each name after a point. -/
def pathText (path : List String) : String :=
  path.foldr (fun name rest => "." ++ name ++ rest) ""

namespace Operand

/-- The text that a literal contributes to the query; `none` for operands that are no literals. -/
def literalText? : Operand → Option String
  | .bool true => some "true"
  | .bool false => some "false"
  | .number spelling _ => some spelling
  | .string s => some s
  | .nil => some "NULL"
  | _ => none

/-- Literals become part of the query text; all other operands are bound. -/
def isLiteral : Operand → Bool
  | .bool _ | .number _ _ | .string _ | .nil => true
  | _ => false

/-- The text of an operand in messages. -/
def text : Operand → String
  | .bool true => "true"
  | .bool false => "false"
  | .number spelling _ => spelling
  | .string s => quoteString s
  | .nil => "nil"
  | .dot => "."
  | .field path => pathText path
  | .variable name path => name ++ pathText path
  | .function name => name
  | .group _ => "(pipeline)"

/-- The literals are the operands with a literal text. -/
theorem isLiteral_eq_isSome (e : Operand) : e.isLiteral = e.literalText?.isSome := by
  cases e with
  | bool b => cases b <;> rfl
  | _ => rfl

end Operand

end QueryTemplate
