import QueryTemplate.Parameter

/-!
# Plain data

Scalars, texts and JSON, in lists and optional values of any nesting. Plain data is a value by itself (`Plain.toValue`),
and it is a parameter that describes itself (`Plain.toParameter`). As a value it keeps no trace of the optional values
around it, which a parameter shows.
-/

namespace QueryTemplate

/-- Data built from scalars, texts and JSON values by lists and optional values. -/
inductive Plain where
  | bool (b : Bool)
  | integer (n : NarrowInt)
  /-- A floating-point number of 32 bits. -/
  | binary32 (bits : UInt32)
  | binary64 (x : Binary64)
  | string (s : String)
  | json (j : Json)
  | list (items : List Plain)
  /-- An optional value that is absent. -/
  | absent
  /-- An optional value that is present. -/
  | present (content : Plain)

/-- The number that an integer is taken as. All types but one are widened to the signed integers of 64 bits, and for that one
it is tried whether the integer fits them. -/
def NarrowInt.taken : NarrowInt → Number
  | .i8 n => .int n.toInt64
  | .i16 n => .int n.toInt64
  | .i32 n => .int n.toInt64
  | .i64 n => .int n
  | .u8 n => .int (Int64.ofNat n.toNat)
  | .u16 n => .int (Int64.ofNat n.toNat)
  | .u32 n => .int (Int64.ofNat n.toNat)
  | .u64 n => (int64? n.toNat).elim (.uint n) .int

namespace Plain

mutual

/-- Plain data as a value. What is absent is null, and what is present is its content. -/
def toValue : Plain → Value
  | .bool b => .bool b
  | .integer n => .number n.taken
  | .binary32 bits => .number (.float (.ofBinary32 bits))
  | .binary64 x => .number (.float x)
  | .string s => .string s
  | .json j => .ofJson j
  | .list items => .list (toValues items)
  | .absent => .null
  | .present content => content.toValue

/-- The elements of a list as values. -/
def toValues : List Plain → List Value
  | [] => []
  | item :: items => item.toValue :: toValues items

end

mutual

/-- Plain data as a parameter. -/
def toParameter : Plain → Parameter
  | .bool b => .bool b
  | .integer n => .integer (.narrow n)
  | .binary32 bits => .binary32 bits
  | .binary64 x => .binary64 x
  | .string s => .string s
  | .json j => .ofJson j
  | .list items => .list (toParameters items)
  | .absent => .null
  | .present content => .optional content.toParameter

/-- The elements of a list as parameters. -/
def toParameters : List Plain → List Parameter
  | [] => []
  | item :: items => item.toParameter :: toParameters items

end

/-- The values of a list are those of its elements. -/
theorem toValues_eq_map (items : List Plain) : toValues items = items.map toValue := by
  induction items with
  | nil => rfl
  | cons item items ih => rw [toValues, ih, List.map_cons]

/-- The parameters of a list are those of its elements. -/
theorem toParameters_eq_map (items : List Plain) : toParameters items = items.map toParameter := by
  induction items with
  | nil => rfl
  | cons item items ih => rw [toParameters, ih, List.map_cons]

end Plain

end QueryTemplate
