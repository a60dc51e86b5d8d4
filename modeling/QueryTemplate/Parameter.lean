import QueryTemplate.Json
import QueryTemplate.Number.Machine
import QueryTemplate.Value

/-!
# Parameters

A parameter is any object that can describe itself in the terms of this data model: scalars, lists, maps, records,
optional values and variants. Describing may fail, for the whole object (`Parameter.refused`) or for a part that then
cannot be bound (`Parameter.unbindable`). Values and JSON values are parameters too.
-/

namespace QueryTemplate

/-- A step in describing a map: the key of the next entry, or its value. -/
inductive MapStep (α : Type) where
  | key (k : α)
  | value (v : α)

/-- An object that describes itself. -/
inductive Parameter where
  /-- An absent optional value, or a value without content. -/
  | null
  | bool (b : Bool)
  /-- An integer of any type. -/
  | integer (n : MachineInt)
  /-- A floating-point number of 32 bits. -/
  | binary32 (bits : UInt32)
  | binary64 (x : Binary64)
  | char (c : Char)
  | string (s : String)
  | bytes (bs : List UInt8)
  /-- An optional value that is present. -/
  | optional (inner : Parameter)
  /-- A named wrapper around one value. -/
  | wrapper (inner : Parameter)
  /-- A value that cannot be bound; the content tells why. -/
  | unbindable (content : Parameter)
  /-- A variant without content. -/
  | variant (name : String)
  /-- A variant around one value. -/
  | variantOf (name : String) (inner : Parameter)
  /-- A variant around several values. -/
  | variantList (name : String) (items : List Parameter)
  /-- A variant with fields. -/
  | variantRecord (name : String) (fields : List (String × Parameter))
  | list (items : List Parameter)
  | map (steps : List (MapStep Parameter))
  | record (fields : List (String × Parameter))
  /-- An object that fails to describe itself. -/
  | refused (message : String)

namespace Parameter

/-- The steps that describe some entries. -/
def stepsOf (entries : List (Parameter × Parameter)) : List (MapStep Parameter) :=
  entries.flatMap fun (key, value) => [.key key, .value value]

/-- A number as a parameter. -/
def ofNumber : Number → Parameter
  | .int n => .integer (.narrow (.i64 n))
  | .uint n => .integer (.narrow (.u64 n))
  | .float x => .binary64 x

mutual

/-- A value as a parameter. A record describes itself as a map, and a value that cannot be bound fails to describe
itself. -/
def ofValue : Value → Parameter
  | .null => .null
  | .bool b => .bool b
  | .number n => ofNumber n
  | .string s => .string s
  | .bytes bs => .bytes bs
  | .list items => .list (ofItems items)
  | .map entries => .map (ofEntries entries)
  | .record fields => .map (ofFields fields)
  | .optional inner => .optional (ofValue inner)
  | .unbindable message => .refused message

/-- The elements of a list as parameters. -/
def ofItems : List Value → List Parameter
  | [] => []
  | item :: items => ofValue item :: ofItems items

/-- The steps that describe the entries of a map. -/
def ofEntries : List (Value × Value) → List (MapStep Parameter)
  | [] => []
  | (key, v) :: entries => .key (ofValue key) :: .value (ofValue v) :: ofEntries entries

/-- The steps that describe the fields of a record. -/
def ofFields : List (String × Value) → List (MapStep Parameter)
  | [] => []
  | (name, v) :: fields => .key (.string name) :: .value (ofValue v) :: ofFields fields

end

mutual

/-- A JSON value as a parameter. -/
def ofJson : Json → Parameter
  | .null => .null
  | .bool b => .bool b
  | .natural n => .integer (.narrow (.u64 n))
  | .negative n => .integer (.narrow (.i64 n))
  | .float x => .binary64 x
  | .string s => .string s
  | .array items => .list (ofJsonItems items)
  | .object members => .map (ofJsonMembers members)

/-- The elements of an array as parameters. -/
def ofJsonItems : List Json → List Parameter
  | [] => []
  | item :: items => ofJson item :: ofJsonItems items

/-- The steps that describe the members of an object. -/
def ofJsonMembers : List (String × Json) → List (MapStep Parameter)
  | [] => []
  | (name, v) :: members => .key (.string name) :: .value (ofJson v) :: ofJsonMembers members

end

/-- The outcome of a conversion that may fail for the value alone: its value, or why it cannot be bound. -/
def ofOutcome : Except String Value → Parameter
  | .ok v => ofValue v
  | .error message => .unbindable (.string message)

end Parameter

end QueryTemplate
