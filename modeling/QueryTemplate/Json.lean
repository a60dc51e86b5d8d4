import QueryTemplate.Json.Error
import QueryTemplate.Number.Shortest
import QueryTemplate.Value

/-!
# JSON

A JSON value becomes a value without loss (`Value.ofJson`), and a value becomes JSON unless it holds something that
cannot be bound or a map key that is no text (`Json.ofValue?`). An object holds each name once, and its names are
sorted.
-/

namespace QueryTemplate

/-- A JSON value. An integer is given by its sign and 64 bits; any other number is a float. -/
inductive Json where
  | null
  | bool (b : Bool)
  | natural (n : UInt64)
  /-- An integer below zero. -/
  | negative (n : Int64)
  | float (x : Binary64)
  | string (s : String)
  | array (items : List Json)
  | object (members : List (String × Json))

namespace Json

/-- Puts a member in its place, replacing the one of the same name. -/
def insertMember (name : String) (value : Json) : List (String × Json) → List (String × Json)
  | [] => [(name, value)]
  | (key, old) :: members =>
    if key = name then (name, value) :: members
    else if name < key then (name, value) :: (key, old) :: members
    else (key, old) :: insertMember name value members

/-- The object with some members; of members of one name the last counts. -/
def ofMembers (members : List (String × Json)) : Json :=
  .object (members.foldl (fun sorted (name, value) => insertMember name value sorted) [])

/-- A signed integer. -/
def ofInt64 (n : Int64) : Json :=
  if n.toInt < 0 then .negative n else .natural (UInt64.ofNat n.toInt.toNat)

/-- A number; floats that are not finite are `null`. -/
def ofNumber : Number → Json
  | .int n => ofInt64 n
  | .uint n => .natural n
  | .float x => if x.isFinite then .float x else .null

/-- Between `0.00001` and `10 ^ 16` a float that serves as a name has its point in place, else a signed exponent. Of two
equally near decimals the one with an even last digit is taken. -/
def keyFloat : DecimalLayout where
  leastPoint := -4
  mostPoint := 16
  tie := .toEven
  plusSign := true

/-- The name under which a map key stands in an object. -/
def keyText? : Value → Except JsonError String
  | .string s => .ok s
  | .bool b => .ok (toString b)
  | .number (.int n) => .ok (toString n.toInt)
  | .number (.uint n) => .ok (toString n.toNat)
  | .number (.float x) => if x.isFinite then .ok (keyFloat.text x) else .error .keyNotFinite
  | .unbindable message => .error (.unbindable message)
  | _ => .error .keyNotText

mutual

/-- The JSON of a value. -/
def ofValue? : Value → Except JsonError Json
  | .null => .ok .null
  | .bool b => .ok (.bool b)
  | .number n => .ok (ofNumber n)
  | .string s => .ok (.string s)
  | .bytes bs => .ok (.array (bs.map fun b => .natural b.toUInt64))
  | .list items => do return .array (← ofItems? items)
  | .map entries => do return ofMembers (← ofEntries? entries)
  | .record fields => do return ofMembers (← ofFields? fields)
  | .optional inner => ofValue? inner
  | .unbindable message => .error (.unbindable message)

/-- The JSON of the elements of a list. -/
def ofItems? : List Value → Except JsonError (List Json)
  | [] => .ok []
  | item :: items => do
    let json ← ofValue? item
    return json :: (← ofItems? items)

/-- The entries of a map as members, in their order. -/
def ofEntries? : List (Value × Value) → Except JsonError (List (String × Json))
  | [] => .ok []
  | (key, v) :: entries => do
    let name ← keyText? key
    let json ← ofValue? v
    return (name, json) :: (← ofEntries? entries)

/-- The fields of a record as members, in their order. -/
def ofFields? : List (String × Value) → Except JsonError (List (String × Json))
  | [] => .ok []
  | (name, v) :: fields => do
    let json ← ofValue? v
    return (name, json) :: (← ofFields? fields)

end

end Json

namespace Value

mutual

/-- The value of a JSON value. An object becomes a map in the order of its names. -/
def ofJson : Json → Value
  | .null => .null
  | .bool b => .bool b
  | .natural n => .number (.ofUInt64 n)
  | .negative n => .number (.int n)
  | .float x => .number (.float x)
  | .string s => .string s
  | .array items => .list (ofJsonItems items)
  | .object members => .map (ofJsonMembers members)

/-- The values of the elements of an array. -/
def ofJsonItems : List Json → List Value
  | [] => []
  | item :: items => ofJson item :: ofJsonItems items

/-- The members of an object as entries. -/
def ofJsonMembers : List (String × Json) → List (Value × Value)
  | [] => []
  | (name, v) :: members => (.string name, ofJson v) :: ofJsonMembers members

end

end Value

end QueryTemplate
