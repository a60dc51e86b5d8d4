import QueryTemplate.Number

/-!
# Values

The values that a template is rendered from, and that are bound as arguments. A value keeps the distinction between maps
and records, and between an optional value that is present and its content. Paths lead through optional values as if
they were their content (`Value.peel`), and what they find may be missing.
-/

namespace QueryTemplate

/-- A value. -/
inductive Value where
  | null
  | bool (b : Bool)
  | number (n : Number)
  | string (s : String)
  | bytes (bs : List UInt8)
  | list (items : List Value)
  /-- A map from arbitrary keys, in a given order. -/
  | map (entries : List (Value × Value))
  /-- Named fields in a given order. -/
  | record (fields : List (String × Value))
  /-- An optional value that is present. -/
  | optional (inner : Value)
  /-- A value that cannot be bound, and why. -/
  | unbindable (message : String)

namespace Value

/-- A natural number as a value. -/
def ofNat (n : Nat) : Value :=
  .number (.int (Int64.ofNat n))

/-- The content of an optional value, through all layers; any other value itself. -/
def peel : Value → Value
  | .optional inner => inner.peel
  | v => v

/-- The entry of a map at a string key; the first one counts. -/
def entry? (name : String) : List (Value × Value) → Option Value
  | [] => none
  | (.string key, v) :: entries => if key = name then some v else entry? name entries
  | _ :: entries => entry? name entries

/-- The field of a record; the first one of the name counts. -/
def field? (name : String) : List (String × Value) → Option Value
  | [] => none
  | (key, v) :: fields => if key = name then some v else field? name fields

/-- The entry of a map or the field of a record. -/
def get? (v : Value) (name : String) : Option Value :=
  match v.peel with
  | .map entries => entry? name entries
  | .record fields => field? name fields
  | _ => none

/-- What a path leads to. The empty path leads to the value itself. -/
def lookup? : List String → Value → Option Value
  | [], v => some v
  | name :: path, v => (v.get? name).bind (lookup? path)

/-- Whether a condition holds on a value: false, zero, what is empty and records do not hold, and a present optional
value does, whatever its content. -/
def isTruthy : Value → Bool
  | .null | .unbindable _ | .record _ => false
  | .bool b => b
  | .number n => !n.isZero
  | .string s => !s.isEmpty
  | .bytes bs => !bs.isEmpty
  | .list items => !items.isEmpty
  | .map entries => !entries.isEmpty
  | .optional _ => true

/-- The elements that a loop visits, each with its key or index; `none` for what is no collection. -/
def pairs? (v : Value) : Option (List (Value × Value)) :=
  match v.peel with
  | .list items => some (items.zipIdx.map fun (item, i) => (ofNat i, item))
  | .bytes bs => some (bs.zipIdx.map fun (b, i) => (ofNat i, ofNat b.toNat))
  | .map entries => some entries
  | _ => none

mutual

/-- Equality of values. Numbers are compared as numbers, so a NaN differs from itself. -/
def equals : Value → Value → Bool
  | .null, .null => true
  | .bool a, .bool b => a == b
  | .number m, .number n => m.equals n
  | .string s, .string t => s == t
  | .bytes a, .bytes b => a == b
  | .list a, .list b => equalItems a b
  | .map a, .map b => equalEntries a b
  | .record a, .record b => equalFields a b
  | .optional a, .optional b => a.equals b
  | .unbindable a, .unbindable b => a == b
  | _, _ => false
termination_by structural v => v

/-- Equality of lists, element by element. -/
def equalItems : List Value → List Value → Bool
  | [], [] => true
  | a :: as, b :: bs => a.equals b && equalItems as bs
  | _, _ => false
termination_by structural v => v

/-- Equality of maps, in the order of their entries. -/
def equalEntries : List (Value × Value) → List (Value × Value) → Bool
  | [], [] => true
  | (k, a) :: as, (l, b) :: bs => k.equals l && a.equals b && equalEntries as bs
  | _, _ => false
termination_by structural v => v

/-- Equality of records, in the order of their fields. -/
def equalFields : List (String × Value) → List (String × Value) → Bool
  | [], [] => true
  | (k, a) :: as, (l, b) :: bs => k == l && a.equals b && equalFields as bs
  | _, _ => false
termination_by structural v => v

end

/-- Peeling takes off every layer. -/
theorem peel_peel (v : Value) : v.peel.peel = v.peel := by
  fun_induction peel v with
  | case1 inner ih => exact ih
  | case2 v h => exact peel.eq_2 v h

/-- A path leads from a value to where it leads from its content. -/
theorem get?_peel (v : Value) (name : String) : v.peel.get? name = v.get? name := by
  rw [get?, get?, peel_peel]

/-- A path in two parts is followed one part after the other. -/
theorem lookup?_append (p q : List String) (v : Value) : v.lookup? (p ++ q) = (v.lookup? p).bind (lookup? q) := by
  induction p generalizing v with
  | nil => rfl
  | cons name p ih =>
    simp only [List.cons_append, lookup?]
    cases v.get? name with
    | none => rfl
    | some w => exact ih w

end Value

end QueryTemplate
