import QueryTemplate.Number.Binary64

/-!
# TOML documents

A TOML document is a table of keys and values. Tables arise in four ways, and the way decides what a document may still
add to a table: nothing is added to an inline table, a table is opened by a header at most once, and dotted keys extend
only tables that dotted keys have made.
-/

namespace QueryTemplate

/-- How a table came about. -/
inductive TableOrigin where
  /-- By a header of its own. -/
  | header
  /-- By the header of a table inside it. -/
  | implied
  /-- By a dotted key. -/
  | dotted
  /-- By a value in braces. -/
  | inline
deriving DecidableEq

/-- A TOML value. -/
inductive Toml where
  | string (s : String)
  | integer (n : Int)
  | float (x : Binary64)
  | boolean (b : Bool)
  /-- A date, a time or both, as it is written. -/
  | moment (spelling : String)
  | array (items : List Toml)
  /-- An array of tables, each with a header of its own. -/
  | tables (items : List Toml)
  | table (origin : TableOrigin) (entries : List (String × Toml))

namespace Toml

/-- The value of a key. -/
def entry? (key : String) : List (String × Toml) → Option Toml
  | [] => none
  | (name, value) :: entries => if name = key then some value else entry? key entries

/-- Replaces the value of a key, or adds one; `none` if the replacement is refused. -/
def alter (key : String) (f : Option Toml → Option Toml) : List (String × Toml) → Option (List (String × Toml))
  | [] => (f none).map fun value => [(key, value)]
  | (name, value) :: entries =>
    if name = key then (f (some value)).map fun value => (name, value) :: entries
    else (alter key f entries).map fun entries => (name, value) :: entries

/-- Changes the table that a path leads to below a table, making the tables that are missing on the way. Of an array of
tables the last is meant. A dotted path does not lead through tables that have a header. -/
def modify (dotted : Bool) : List String → (Toml → Option Toml) → Toml → Option Toml
  | [], f, t => f t
  | key :: path, f, .table origin entries =>
    let below : Option Toml → Option Toml
      | none => modify dotted path f (.table (if dotted then .dotted else .implied) [])
      | some (.table .inline _) => none
      | some (.table inner entries) =>
        if dotted && inner == .header then none else modify dotted path f (.table inner entries)
      | some (.tables items) =>
        items.getLast?.bind fun last =>
          (modify dotted path f last).map fun last => .tables (items.dropLast ++ [last])
      | some _ => none
    (alter key below entries).map fun entries => .table origin entries
  | _ :: _, _, _ => none

/-- Gives a new key of a table its value. With a dotted key this has to be a table that dotted keys have made. -/
def assign (key : String) (value : Toml) (dotted : Bool) : Toml → Option Toml
  | .table origin entries =>
    if (origin == .dotted) != dotted then none
    else
      (alter key (fun old => if old.isSome then none else some value) entries).map fun entries => .table origin entries
  | _ => none

/-- Gives a key, which may be dotted, its value below a table. -/
def assignPath (path : List String) (value : Toml) (t : Toml) : Option Toml :=
  match path.getLast? with
  | none => none
  | some key => modify true path.dropLast (assign key value (!path.dropLast.isEmpty)) t

/-- Opens a table by its header. -/
def openTable (key : String) : Toml → Option Toml
  | .table origin entries =>
    let opened : Option Toml → Option Toml
      | none => some (.table .header [])
      | some (.table .implied entries) => some (.table .header entries)
      | some _ => none
    (alter key opened entries).map fun entries => .table origin entries
  | _ => none

/-- Adds a table to an array of tables. -/
def openElement (key : String) : Toml → Option Toml
  | .table origin entries =>
    let opened : Option Toml → Option Toml
      | none => some (.tables [.table .header []])
      | some (.tables items) => some (.tables (items ++ [.table .header []]))
      | some _ => none
    (alter key opened entries).map fun entries => .table origin entries
  | _ => none

end Toml

end QueryTemplate
