import QueryTemplate.Json
import QueryTemplate.Proofs.Value.Replaced

/-!
# Values without optional layers

The optional layers of a value around itself, the elements of lists, the values of maps and the fields of records can be taken
off (`Value.unwrapped`). Keys are left as they are. Paths and binding go along with that (`Value.isReplacement_unwrapped`).
-/

namespace QueryTemplate

namespace Value

mutual

/-- The value without its optional layers. -/
def unwrapped : Value → Value
  | .list items => .list (unwrappedItems items)
  | .map entries => .map (unwrappedEntries entries)
  | .record fields => .record (unwrappedFields fields)
  | .optional inner => unwrapped inner
  | v => v

/-- The elements of a list without their optional layers. -/
def unwrappedItems : List Value → List Value
  | [] => []
  | item :: items => unwrapped item :: unwrappedItems items

/-- The entries of a map, the values without their optional layers. -/
def unwrappedEntries : List (Value × Value) → List (Value × Value)
  | [] => []
  | (key, v) :: entries => (key, unwrapped v) :: unwrappedEntries entries

/-- The fields of a record without their optional layers. -/
def unwrappedFields : List (String × Value) → List (String × Value)
  | [] => []
  | (name, v) :: fields => (name, unwrapped v) :: unwrappedFields fields

end

/-! ## Peeling and unwrapping -/

/-- Peeling takes off the outer layers, and unwrapping those and more. -/
theorem unwrapped_peel (v : Value) : v.peel.unwrapped = v.unwrapped := by
  induction v using peel.induct with
  | case1 inner ih => exact ih
  | case2 v h => rw [peel.eq_2 v h]

/-- No optional layer is left outside. -/
theorem peel_ne_optional (v inner : Value) : v.peel ≠ .optional inner := by
  induction v using peel.induct with
  | case1 v ih => exact ih
  | case2 v h => rw [peel.eq_2 v h]; exact h inner

/-- Nothing is left to peel. -/
theorem peel_unwrapped (v : Value) : v.unwrapped.peel = v.unwrapped := by
  induction v using peel.induct with
  | case1 inner ih => exact ih
  | case2 v h =>
    cases v with
    | optional inner => exact absurd rfl (h inner)
    | _ => rfl

/-! ## Paths and arguments -/

/-- A key is found as before: a name has no optional layers. -/
theorem entry?_unwrappedEntries (name : String) (entries : List (Value × Value)) :
    entry? name (unwrappedEntries entries) = (Value.entry? name entries).map unwrapped := by
  induction entries with
  | nil => rfl
  | cons entry entries ih =>
    obtain ⟨key, v⟩ := entry
    cases key with
    | string key =>
      simp only [unwrappedEntries, entry?]
      split
      · rfl
      · exact ih
    | _ => exact ih

/-- A field is found as before. -/
theorem field?_unwrappedFields (name : String) (fields : List (String × Value)) :
    field? name (unwrappedFields fields) = (field? name fields).map unwrapped := by
  induction fields with
  | nil => rfl
  | cons field fields ih =>
    obtain ⟨key, v⟩ := field
    simp only [unwrappedFields, field?]
    split
    · rfl
    · exact ih

/-- Layers are peeled at every step of a path, so the layers that are off already are not missed. -/
theorem get?_unwrapped (v : Value) (name : String) : v.unwrapped.get? name = (v.get? name).map unwrapped := by
  rw [← get?_peel v, ← unwrapped_peel v]
  cases hv : v.peel with
  | map entries => exact entry?_unwrappedEntries name entries
  | record fields => exact field?_unwrappedFields name fields
  | optional inner => exact absurd hv (peel_ne_optional v inner)
  | _ => rfl

/-- Layers are peeled off what is bound, and its content keeps the layers within. -/
theorem toArgument_unwrapped (v : Value) : v.unwrapped.toArgument = v.toArgument.map unwrapped := by
  rw [toArgument, toArgument, peel_unwrapped, ← unwrapped_peel v]
  cases hv : v.peel with
  | optional inner => exact absurd hv (peel_ne_optional v inner)
  | _ => rfl

/-- Removing optional layers is a replacement that lookups do not notice. -/
theorem isReplacement_unwrapped : IsReplacement unwrapped :=
  ⟨rfl, get?_unwrapped, toArgument_unwrapped⟩

/-! ## JSON -/

mutual

/-- JSON has no optional layers. -/
theorem unwrapped_ofJson (j : Json) : (ofJson j).unwrapped = ofJson j := by
  match j with
  | .null | .bool _ | .natural _ | .negative _ | .float _ | .string _ => rfl
  | .array items => exact congrArg list (unwrappedItems_ofJsonItems items)
  | .object members => exact congrArg map (unwrappedEntries_ofJsonMembers members)

/-- The elements of an array have no optional layers. -/
theorem unwrappedItems_ofJsonItems (items : List Json) : unwrappedItems (ofJsonItems items) = ofJsonItems items := by
  match items with
  | [] => rfl
  | item :: items => rw [ofJsonItems, unwrappedItems, unwrapped_ofJson item, unwrappedItems_ofJsonItems items]

/-- The members of an object have no optional layers. -/
theorem unwrappedEntries_ofJsonMembers (members : List (String × Json)) :
    unwrappedEntries (ofJsonMembers members) = ofJsonMembers members := by
  match members with
  | [] => rfl
  | (name, v) :: members =>
    rw [ofJsonMembers, unwrappedEntries, unwrapped_ofJson v, unwrappedEntries_ofJsonMembers members]

end

end Value

end QueryTemplate
