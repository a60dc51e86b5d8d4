import QueryTemplate.Proofs.Value.Replaced

/-!
# Values with maps for records

A record can be replaced by the map of its fields, at any depth and in keys as well, and numbers by other numbers
(`Value.recast`). Paths do not see the difference: what they lead to is replaced in the same way (`Value.lookup?_recast`).
Conditions and loops do, but only at a record that itself decides them (`Value.isTruthy_recast`, `Value.pairs?_recast`).
-/

namespace QueryTemplate

namespace Value

mutual

/-- The value with the map of its fields for every record, and with other numbers. -/
def recast (f : Number → Number) : Value → Value
  | .number n => .number (f n)
  | .list items => .list (recastItems f items)
  | .map entries => .map (recastEntries f entries)
  | .record fields => .map (recastFields f fields)
  | .optional inner => .optional (recast f inner)
  | v => v

/-- The elements of a list, each with maps for records. -/
def recastItems (f : Number → Number) : List Value → List Value
  | [] => []
  | item :: items => recast f item :: recastItems f items

/-- The entries of a map, with maps for records in keys and in values. -/
def recastEntries (f : Number → Number) : List (Value × Value) → List (Value × Value)
  | [] => []
  | (key, v) :: entries => (recast f key, recast f v) :: recastEntries f entries

/-- The fields of a record as the entries of a map. -/
def recastFields (f : Number → Number) : List (String × Value) → List (Value × Value)
  | [] => []
  | (name, v) :: fields => (.string name, recast f v) :: recastFields f fields

end

mutual

/-- Whether there are records in a value, at any depth and also in keys. -/
def hasRecord : Value → Bool
  | .list items => anyHasRecord items
  | .map entries => entriesHaveRecord entries
  | .record _ => true
  | .optional inner => hasRecord inner
  | _ => false

/-- Whether there are records in the elements of a list. -/
def anyHasRecord : List Value → Bool
  | [] => false
  | item :: items => hasRecord item || anyHasRecord items

/-- Whether there are records in the keys or in the values of a map. -/
def entriesHaveRecord : List (Value × Value) → Bool
  | [] => false
  | (key, v) :: entries => hasRecord key || hasRecord v || entriesHaveRecord entries

end

/-- The elements of a list are recast one by one. -/
theorem recastItems_eq_map (f : Number → Number) (items : List Value) : recastItems f items = items.map (recast f) := by
  induction items with
  | nil => rfl
  | cons item items ih => rw [recastItems, ih, List.map_cons]

/-- The keys and values of a map are recast one by one. -/
theorem recastEntries_eq_map (f : Number → Number) (entries : List (Value × Value)) :
    recastEntries f entries = entries.map (Prod.map (recast f) (recast f)) := by
  induction entries with
  | nil => rfl
  | cons entry entries ih =>
    obtain ⟨key, v⟩ := entry
    rw [recastEntries, ih, List.map_cons]
    rfl

mutual

/-- Without records there is nothing to replace but numbers. -/
theorem recast_of_not_hasRecord {v : Value} (h : v.hasRecord = false) : v.recast id = v := by
  match v with
  | .null | .bool _ | .number _ | .string _ | .bytes _ | .unbindable _ => rfl
  | .list items => rw [recast, recastItems_of_not_anyHasRecord h]
  | .map entries => rw [recast, recastEntries_of_not_entriesHaveRecord h]
  | .record fields => cases h
  | .optional inner =>
    have hinner : inner.hasRecord = false := h
    rw [recast, recast_of_not_hasRecord hinner]

/-- Elements without records are left as they are. -/
theorem recastItems_of_not_anyHasRecord {items : List Value} (h : anyHasRecord items = false) :
    recastItems id items = items := by
  match items with
  | [] => rfl
  | item :: items =>
    rw [anyHasRecord, Bool.or_eq_false_iff] at h
    rw [recastItems, recast_of_not_hasRecord h.1, recastItems_of_not_anyHasRecord h.2]

/-- Entries without records are left as they are. -/
theorem recastEntries_of_not_entriesHaveRecord {entries : List (Value × Value)} (h : entriesHaveRecord entries = false) :
    recastEntries id entries = entries := by
  match entries with
  | [] => rfl
  | (key, v) :: entries =>
    rw [entriesHaveRecord, Bool.or_eq_false_iff, Bool.or_eq_false_iff] at h
    rw [recastEntries, recast_of_not_hasRecord h.1.1, recast_of_not_hasRecord h.1.2,
      recastEntries_of_not_entriesHaveRecord h.2]

end

/-! ## Paths -/

/-- Optional layers stay where they are. -/
theorem peel_recast (f : Number → Number) (v : Value) : (v.recast f).peel = v.peel.recast f := by
  induction v using peel.induct with
  | case1 inner ih => exact ih
  | case2 v h =>
    cases v with
    | optional inner => exact absurd rfl (h inner)
    | _ => rfl

/-- Keys that are strings stay the strings they are, and other keys do not become strings. -/
theorem entry?_recastEntries (f : Number → Number) (name : String) (entries : List (Value × Value)) :
    entry? name (recastEntries f entries) = (Value.entry? name entries).map (recast f) := by
  induction entries with
  | nil => rfl
  | cons entry entries ih =>
    obtain ⟨key, v⟩ := entry
    cases key with
    | string key =>
      simp only [recastEntries, recast, entry?]
      split
      · rfl
      · exact ih
    | _ => exact ih

/-- The entry for a field has the name of the field as its key. -/
theorem entry?_recastFields (f : Number → Number) (name : String) (fields : List (String × Value)) :
    entry? name (recastFields f fields) = (field? name fields).map (recast f) := by
  induction fields with
  | nil => rfl
  | cons field fields ih =>
    obtain ⟨key, v⟩ := field
    simp only [recastFields, entry?, field?]
    split
    · rfl
    · exact ih

/-- A name leads to the recast part, in a map as in the record that it was. -/
theorem get?_recast (f : Number → Number) (v : Value) (name : String) :
    (v.recast f).get? name = (v.get? name).map (recast f) := by
  rw [get?, get?, peel_recast]
  cases v.peel with
  | map entries => exact entry?_recastEntries f name entries
  | record fields => exact entry?_recastFields f name fields
  | _ => rfl

/-! ## Arguments -/

/-- What is bound is recast, and what cannot be bound is so for the same reason. -/
theorem toArgument_recast (f : Number → Number) (v : Value) : (v.recast f).toArgument = v.toArgument.map (recast f) := by
  rw [toArgument, toArgument, peel_recast]
  cases v.peel <;> rfl

/-- Paths and binding go along with the replacement. -/
theorem isReplacement_recast (f : Number → Number) : IsReplacement (recast f) :=
  ⟨rfl, get?_recast f, toArgument_recast f⟩

/-- A path leads to the replacement of what it leads to. -/
theorem lookup?_recast (f : Number → Number) (path : List String) (v : Value) :
    (v.recast f).lookup? path = (v.lookup? path).map (recast f) :=
  (isReplacement_recast f).lookup? path v

/-- The policy for what is missing has nothing to recast. -/
theorem extract_recast (f : Number → Number) (policy : MissingValue) (reference : String) (v : Option Value) :
    extract policy reference (v.map (recast f)) = (extract policy reference v).map (recast f) :=
  (isReplacement_recast f).extract policy reference v

/-! ## Conditions and loops -/

/-- A record never holds, and a map does if it has entries. Nothing else is judged differently. -/
theorem isTruthy_recast {v : Value} (h : ∀ field fields, v ≠ .record (field :: fields)) :
    (v.recast id).isTruthy = v.isTruthy := by
  cases v with
  | list items =>
    rw [recast, isTruthy, isTruthy, recastItems_eq_map, List.isEmpty_map]
  | map entries =>
    rw [recast, isTruthy, isTruthy, recastEntries_eq_map, List.isEmpty_map]
  | record fields =>
    cases fields with
    | nil => rfl
    | cons field fields => exact absurd rfl (h field fields)
  | _ => rfl

/-- A record has no elements, and a map has its entries. Of anything else the elements are replaced one by one. -/
theorem pairs?_recast {v : Value} (h : ∀ fields, v.peel ≠ .record fields) :
    (v.recast id).pairs? = v.pairs?.map (List.map (Prod.map (recast id) (recast id))) := by
  rw [pairs?, pairs?, peel_recast]
  cases hv : v.peel with
  | list items =>
    simp only [recast, recastItems_eq_map, Option.map_some, List.zipIdx_map, List.map_map, Option.some.injEq]
    rfl
  | bytes bs =>
    simp only [recast, Option.map_some, List.map_map, Option.some.injEq]
    rfl
  | map entries =>
    simp only [recast, recastEntries_eq_map, Option.map_some]
  | record fields => exact absurd hv (h fields)
  | _ => rfl

end Value

end QueryTemplate
