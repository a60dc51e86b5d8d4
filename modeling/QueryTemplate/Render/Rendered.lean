import QueryTemplate.Error
import QueryTemplate.Options
import QueryTemplate.Value

/-!
# Rendered queries

A rendered query is its text, with a placeholder for every bound argument, and the arguments in the order of their
placeholders. Parts of a query are put together with `++`.
-/

namespace QueryTemplate

/-- The text that stands for an argument. -/
def placeholder : String := "?"

/-- The text of a query and its arguments. -/
structure Rendered where
  query : String
  arguments : List Value

namespace Rendered

/-- Nothing. -/
def empty : Rendered :=
  ⟨"", []⟩

/-- One part of a query after the other. -/
def append (a b : Rendered) : Rendered :=
  ⟨a.query ++ b.query, a.arguments ++ b.arguments⟩

instance : Append Rendered := ⟨append⟩

/-- Text without arguments. -/
def ofText (s : String) : Rendered :=
  ⟨s, []⟩

/-- A placeholder with its argument. -/
def ofArgument (v : Value) : Rendered :=
  ⟨placeholder, [v]⟩

/-- The text of one part comes after the text of the other. -/
@[simp] theorem query_append (a b : Rendered) : (a ++ b).query = a.query ++ b.query := rfl

/-- The arguments of two parts come in the order of their placeholders. -/
@[simp] theorem arguments_append (a b : Rendered) : (a ++ b).arguments = a.arguments ++ b.arguments := rfl

/-- Nothing before a part leaves it as it is. -/
@[simp] theorem empty_append (a : Rendered) : empty ++ a = a := by
  show Rendered.mk ("" ++ a.query) ([] ++ a.arguments) = a
  rw [String.empty_append, List.nil_append]

/-- Nothing after a part leaves it as it is. -/
@[simp] theorem append_empty (a : Rendered) : a ++ empty = a := by
  show Rendered.mk (a.query ++ "") (a.arguments ++ []) = a
  rw [String.append_empty, List.append_nil]

/-- Three parts may be put together from either end. -/
theorem append_assoc (a b c : Rendered) : a ++ b ++ c = a ++ (b ++ c) := by
  show Rendered.mk (a.query ++ b.query ++ c.query) (a.arguments ++ b.arguments ++ c.arguments) = _
  rw [String.append_assoc, List.append_assoc]
  rfl

end Rendered

namespace Value

/-- The value to bind as an argument: the content of optional values. -/
def toArgument (v : Value) : Except Error Value :=
  match v.peel with
  | .unbindable message => .error (.conversion message)
  | w => .ok w

/-- The argument for what a reference leads to, the reference being given by its text for the case that it leads
nowhere. -/
def extract (policy : MissingValue) (reference : String) : Option Value → Except Error Value
  | some v => v.toArgument
  | none =>
    match policy with
    | .null => .ok .null
    | .error => .error (.missingValue reference)

end Value

end QueryTemplate
