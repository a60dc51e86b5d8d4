import QueryTemplate.Toml.Value

/-!
# Reading TOML documents

A document is read as statements, which are then carried out one after the other: a header opens a table or an element
of an array of tables, and what is assigned after it belongs there.
-/

namespace QueryTemplate

namespace Toml

open Reader

/-- A statement of a document. -/
inductive Statement where
  /-- `[a.b]` -/
  | table (path : List String)
  /-- `[[a.b]]` -/
  | element (path : List String)
  /-- `a.b = value` -/
  | assignment (path : List String) (value : Toml)

/-- The end of a line or of the document. -/
def lineEnd : Reader Unit
  | [] => .done () []
  | s => newline s

/-- What may follow a statement on its line. -/
def trailing : Reader Unit := do
  spaces
  let _ ← optional comment
  lineEnd

/-- A line: a statement, a comment or nothing. -/
def line : Reader (Option Statement) :=
  firstOf [
    do comment; lineEnd; return none,
    do newline; return none,
    do text ['[', '[']; let path ← key; text [']', ']']; trailing; return some (.element path),
    do let _ ← char '['; let path ← key; let _ ← char ']'; trailing; return some (.table path),
    do
      let path ← key
      let _ ← char '='
      spaces
      let v ← value
      trailing
      return some (.assignment path v)]

/-- The statements of a document, which may begin with a byte order mark. -/
def statements : Reader (List Statement) := do
  let _ ← optional (char '\uFEFF')
  spaces
  let lines ← many do
    let statement ← line
    spaces
    return statement
  return lines.filterMap id

/-- A document that is being carried out: its table, and the path of the table that is open. -/
structure Progress where
  root : Toml
  current : List String

namespace Progress

/-- Carries out a statement. -/
def run (p : Progress) : Statement → Option Progress
  | .table path => do
    let key ← path.getLast?
    return ⟨← modify false path.dropLast (openTable key) p.root, path⟩
  | .element path => do
    let key ← path.getLast?
    return ⟨← modify false path.dropLast (openElement key) p.root, path⟩
  | .assignment path value => do
    return ⟨← modify false p.current (assignPath path value) p.root, p.current⟩

end Progress

/-- The keys and values of a document; `none` if it is malformed. -/
def read? (document : String) : Option (List (String × Toml)) :=
  match statements document.toList with
  | .done statements [] => do
    let p ← statements.foldlM Progress.run ⟨.table .header [], []⟩
    match p.root with
    | .table _ entries => some entries
    | _ => none
  | _ => none

end Toml

end QueryTemplate
