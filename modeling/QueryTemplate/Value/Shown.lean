import QueryTemplate.Number.Shortest
import QueryTemplate.Text.Quoted
import QueryTemplate.Value

/-!
# The structure of a value as text

A value is shown as the name of its kind with its content in parentheses, lists in brackets, strings quoted and floats
with their shortest digits.
-/

namespace QueryTemplate

/-- Between `0.0001` and `10 ^ 16` a float is shown with its point in place, and of two equally near decimals the one
further from zero is shown. -/
def shownFloat : DecimalLayout where
  leastPoint := -3
  mostPoint := 16
  tie := .upward
  plusSign := false

/-- A number with the name of its representation. -/
def Number.shown : Number → String
  | .int n => "Int(" ++ toString n.toInt ++ ")"
  | .uint n => "UInt(" ++ toString n.toNat ++ ")"
  | .float x => "Float(" ++ shownFloat.text x ++ ")"

/-- Texts in brackets with commas between them. -/
def bracketed (texts : List String) : String :=
  "[" ++ ", ".intercalate texts ++ "]"

namespace Value

mutual

/-- The structure of a value. -/
def shown : Value → String
  | .null => "Null"
  | .bool b => "Bool(" ++ toString b ++ ")"
  | .number n => n.shown
  | .string s => "String(" ++ quoteString s ++ ")"
  | .bytes bs => "Bytes(" ++ bracketed (bs.map fun b => toString b.toNat) ++ ")"
  | .list items => "List(" ++ bracketed (shownItems items) ++ ")"
  | .map entries => "Map(" ++ bracketed (shownEntries entries) ++ ")"
  | .record fields => "Record(" ++ bracketed (shownFields fields) ++ ")"
  | .optional inner => "Optional(" ++ inner.shown ++ ")"
  | .unbindable message => "Unbindable(" ++ quoteString message ++ ")"

/-- The structures of the elements of a list. -/
def shownItems : List Value → List String
  | [] => []
  | item :: items => item.shown :: shownItems items

/-- The entries of a map, each as a pair. -/
def shownEntries : List (Value × Value) → List String
  | [] => []
  | (key, v) :: entries => ("(" ++ key.shown ++ ", " ++ v.shown ++ ")") :: shownEntries entries

/-- The fields of a record, each as a pair. -/
def shownFields : List (String × Value) → List String
  | [] => []
  | (name, v) :: fields => ("(" ++ quoteString name ++ ", " ++ v.shown ++ ")") :: shownFields fields

end

end Value

end QueryTemplate
