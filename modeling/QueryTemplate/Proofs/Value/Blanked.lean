import Mathlib.Data.List.Forall2
import QueryTemplate.Proofs.Outcome
import QueryTemplate.Render.Rendered

/-!
# Values with null for what cannot be bound

What cannot be bound is like null in everything that a template does with values: no path leads into it, it never holds,
and it has no elements. So null may stand in its place, at any depth and in keys as well (`Value.blanked`), and paths,
conditions and loops do not see the difference (`Value.get?_blanked`, `Value.isTruthy_blanked`, `Value.pairs?_blanked`).
Binding does, for a value that is itself one that cannot be bound (`Value.Blanks.toArgument`).
-/

namespace QueryTemplate

namespace Value

/-! ## The parts of a value -/

/-- The first value is the second or stands anywhere in it: below optional values, in lists, in the values and keys of
maps, in records. -/
inductive Part : Value → Value → Prop where
  | itself (v : Value) : Part v v
  | content {u inner : Value} : Part u inner → Part u (.optional inner)
  | item {u item : Value} {items : List Value} : item ∈ items → Part u item → Part u (.list items)
  | key {u key v : Value} {entries : List (Value × Value)} : (key, v) ∈ entries → Part u key → Part u (.map entries)
  | value {u key v : Value} {entries : List (Value × Value)} : (key, v) ∈ entries → Part u v → Part u (.map entries)
  | field {u v : Value} {name : String} {fields : List (String × Value)} :
      (name, v) ∈ fields → Part u v → Part u (.record fields)

/-- A part of a part is a part. -/
theorem Part.trans {u v w : Value} (huv : Part u v) (hvw : Part v w) : Part u w := by
  induction hvw with
  | itself => exact huv
  | content _ ih => exact .content ih
  | item hitem _ ih => exact .item hitem ih
  | key hentry _ ih => exact .key hentry ih
  | value hentry _ ih => exact .value hentry ih
  | field hfield _ ih => exact .field hfield ih

/-- The content of an optional value is a part of it. -/
theorem part_peel (v : Value) : Part v.peel v := by
  induction v using peel.induct with
  | case1 inner ih => exact .content ih
  | case2 v h =>
    rw [peel.eq_2 v h]
    exact .itself v

/-- What a map has under a name is the value of one of its entries. -/
theorem mem_of_entry? {name : String} {entries : List (Value × Value)} {w : Value} (h : entry? name entries = some w) :
    ∃ key, (key, w) ∈ entries := by
  induction entries with
  | nil => cases h
  | cons entry entries ih =>
    have hrest : entry? name entries = some w → ∃ key, (key, w) ∈ entry :: entries := by
      intro h
      obtain ⟨key, hkey⟩ := ih h
      exact ⟨key, List.mem_cons_of_mem entry hkey⟩
    obtain ⟨key, v⟩ := entry
    cases key with
    | string key =>
      rw [Value.entry?] at h
      split at h
      · cases h
        exact ⟨_, List.mem_cons_self⟩
      · exact hrest h
    | _ => exact hrest h

/-- What a record has under a name is the value of one of its fields. -/
theorem mem_of_field? {name : String} {fields : List (String × Value)} {w : Value} (h : field? name fields = some w) :
    ∃ name', (name', w) ∈ fields := by
  induction fields with
  | nil => cases h
  | cons field fields ih =>
    obtain ⟨key, v⟩ := field
    rw [field?] at h
    split at h
    · cases h
      exact ⟨_, List.mem_cons_self⟩
    · obtain ⟨name', hname⟩ := ih h
      exact ⟨name', List.mem_cons_of_mem _ hname⟩

/-- The entries and fields of a value are parts of it. -/
theorem part_of_get? {v w : Value} {name : String} (h : v.get? name = some w) : Part w v := by
  refine Part.trans ?_ v.part_peel
  rw [get?] at h
  cases hv : v.peel with
  | map entries =>
    rw [hv] at h
    obtain ⟨key, hkey⟩ := mem_of_entry? h
    exact .value hkey (.itself w)
  | record fields =>
    rw [hv] at h
    obtain ⟨name', hname⟩ := mem_of_field? h
    exact .field hname (.itself w)
  | _ =>
    rw [hv] at h
    cases h

/-- The elements of a collection are parts of it, and so are their keys, but for bytes and the indices of lists, which
are numbers. -/
theorem part_of_pairs? {v : Value} {pairs : List (Value × Value)} (h : v.pairs? = some pairs) {pair : Value × Value}
    (hpair : pair ∈ pairs) :
    (Part pair.1 v ∨ ∃ n, pair.1 = .ofNat n) ∧ (Part pair.2 v ∨ ∃ n, pair.2 = .ofNat n) := by
  have htrans : ∀ {u}, Part u v.peel → Part u v := fun hu => hu.trans v.part_peel
  rw [pairs?] at h
  cases hv : v.peel with
  | list items =>
    rw [hv] at h htrans
    cases h
    obtain ⟨⟨item, i⟩, hitem, rfl⟩ := List.mem_map.mp hpair
    exact ⟨Or.inr ⟨i, rfl⟩, Or.inl (htrans (.item (List.fst_mem_of_mem_zipIdx hitem) (.itself item)))⟩
  | bytes bs =>
    rw [hv] at h
    cases h
    obtain ⟨⟨b, i⟩, -, rfl⟩ := List.mem_map.mp hpair
    exact ⟨Or.inr ⟨i, rfl⟩, Or.inr ⟨b.toNat, rfl⟩⟩
  | map entries =>
    rw [hv] at h htrans
    cases h
    exact ⟨Or.inl (htrans (.key hpair (.itself _))), Or.inl (htrans (.value hpair (.itself _)))⟩
  | _ =>
    rw [hv] at h
    cases h

/-! ## Null in the place of what cannot be bound -/

mutual

/-- The value with null for everything in it that cannot be bound. -/
def blanked : Value → Value
  | .unbindable _ => .null
  | .list items => .list (blankedItems items)
  | .map entries => .map (blankedEntries entries)
  | .record fields => .record (blankedFields fields)
  | .optional inner => .optional (blanked inner)
  | v => v

/-- The elements of a list, each with null for what cannot be bound. -/
def blankedItems : List Value → List Value
  | [] => []
  | item :: items => blanked item :: blankedItems items

/-- The entries of a map, with null for what cannot be bound in keys and in values. -/
def blankedEntries : List (Value × Value) → List (Value × Value)
  | [] => []
  | (key, v) :: entries => (blanked key, blanked v) :: blankedEntries entries

/-- The fields of a record, each with null for what cannot be bound. -/
def blankedFields : List (String × Value) → List (String × Value)
  | [] => []
  | (name, v) :: fields => (name, blanked v) :: blankedFields fields

end

/-- The elements of a list are blanked one by one. -/
theorem blankedItems_eq_map (items : List Value) : blankedItems items = items.map blanked := by
  induction items with
  | nil => rfl
  | cons item items ih => rw [blankedItems, ih, List.map_cons]

/-- The keys and values of a map are blanked one by one. -/
theorem blankedEntries_eq_map (entries : List (Value × Value)) :
    blankedEntries entries = entries.map (Prod.map blanked blanked) := by
  induction entries with
  | nil => rfl
  | cons entry entries ih =>
    obtain ⟨key, v⟩ := entry
    rw [blankedEntries, ih, List.map_cons]
    rfl

/-- Optional layers stay where they are. -/
theorem peel_blanked (v : Value) : v.blanked.peel = v.peel.blanked := by
  induction v using peel.induct with
  | case1 inner ih => exact ih
  | case2 v h =>
    cases v with
    | optional inner => exact absurd rfl (h inner)
    | _ => rfl

/-- Null is no string, so no key becomes one. -/
theorem entry?_blankedEntries (name : String) (entries : List (Value × Value)) :
    entry? name (blankedEntries entries) = (Value.entry? name entries).map blanked := by
  induction entries with
  | nil => rfl
  | cons entry entries ih =>
    obtain ⟨key, v⟩ := entry
    cases key with
    | string key =>
      simp only [blankedEntries, blanked, entry?]
      split
      · rfl
      · exact ih
    | _ => exact ih

/-- Names of fields are not blanked, so they are found as before. -/
theorem field?_blankedFields (name : String) (fields : List (String × Value)) :
    field? name (blankedFields fields) = (field? name fields).map blanked := by
  induction fields with
  | nil => rfl
  | cons field fields ih =>
    obtain ⟨key, v⟩ := field
    simp only [blankedFields, field?]
    split
    · rfl
    · exact ih

/-- A name leads to the blanked part. Keys that are blanked are no names. -/
theorem get?_blanked (v : Value) (name : String) : v.blanked.get? name = (v.get? name).map blanked := by
  rw [get?, get?, peel_blanked]
  cases v.peel with
  | map entries => exact entry?_blankedEntries name entries
  | record fields => exact field?_blankedFields name fields
  | _ => rfl

/-- What cannot be bound is false, like null. -/
theorem isTruthy_blanked (v : Value) : v.blanked.isTruthy = v.isTruthy := by
  cases v with
  | list items => rw [blanked, isTruthy, isTruthy, blankedItems_eq_map, List.isEmpty_map]
  | map entries => rw [blanked, isTruthy, isTruthy, blankedEntries_eq_map, List.isEmpty_map]
  | _ => rfl

/-- A loop goes over the blanked pairs. -/
theorem pairs?_blanked (v : Value) : v.blanked.pairs? = v.pairs?.map (List.map (Prod.map blanked blanked)) := by
  rw [pairs?, pairs?, peel_blanked]
  cases v.peel with
  | list items =>
    simp only [blanked, blankedItems_eq_map, Option.map_some, List.zipIdx_map, List.map_map, Option.some.injEq]
    rfl
  | bytes bs =>
    simp only [blanked, Option.map_some, List.map_map, Option.some.injEq]
    rfl
  | map entries => simp only [blanked, blankedEntries_eq_map, Option.map_some]
  | _ => rfl

/-! ## The value and its copy -/

/-- The second value is the first with null for what cannot be bound, for reasons that are among some. -/
structure Blanks (reasons : String → Prop) (v w : Value) : Prop where
  blanked : w = v.blanked
  reasons : ∀ message, Part (.unbindable message) v → reasons message

end Value

/-- A conversion has failed, for a reason that is among some. -/
def Error.IsConversion (reasons : String → Prop) (e : Error) : Prop :=
  ∃ message, reasons message ∧ e = .conversion message

namespace Value.Blanks

variable {reasons : String → Prop} {v w : Value}

/-- What is a part of the first value has the same reasons. -/
theorem part {u : Value} (h : Blanks reasons v w) (hu : Part u v) : Blanks reasons u u.blanked :=
  ⟨rfl, fun message hmessage => h.reasons message (hmessage.trans hu)⟩

/-! Values without parts, and the values that are put together from others. -/

/-- Null is left as it is. -/
theorem null : Blanks reasons .null .null :=
  ⟨rfl, fun _ h => nomatch h⟩

/-- A boolean is left as it is. -/
theorem bool (b : Bool) : Blanks reasons (.bool b) (.bool b) :=
  ⟨rfl, fun _ h => nomatch h⟩

/-- A number is left as it is. -/
theorem number (n : Number) : Blanks reasons (.number n) (.number n) :=
  ⟨rfl, fun _ h => nomatch h⟩

/-- A string is left as it is. -/
theorem string (s : String) : Blanks reasons (.string s) (.string s) :=
  ⟨rfl, fun _ h => nomatch h⟩

/-- Bytes are left as they are. -/
theorem bytes (bs : List UInt8) : Blanks reasons (.bytes bs) (.bytes bs) :=
  ⟨rfl, fun _ h => nomatch h⟩

/-- What cannot be bound becomes null. -/
theorem unbindable {message : String} (h : reasons message) : Blanks reasons (.unbindable message) .null := by
  refine ⟨rfl, fun message' hpart => ?_⟩
  cases hpart
  exact h

/-- Within an optional layer the content is blanked. -/
theorem optional (h : Blanks reasons v w) : Blanks reasons (.optional v) (.optional w) := by
  refine ⟨congrArg Value.optional h.blanked, fun message hpart => ?_⟩
  cases hpart with
  | content hpart => exact h.reasons message hpart

/-- An empty list is left as it is. -/
theorem emptyList : Blanks reasons (.list []) (.list []) :=
  ⟨rfl, fun _ h => by cases h with | item h _ => cases h⟩

/-- The first element is blanked beside the others. -/
theorem item {vs ws : List Value} (h : Blanks reasons v w) (hrest : Blanks reasons (.list vs) (.list ws)) :
    Blanks reasons (.list (v :: vs)) (.list (w :: ws)) := by
  refine ⟨?_, fun message hpart => ?_⟩
  · have hws : ws = blankedItems vs := Value.list.inj hrest.blanked
    rw [Value.blanked, blankedItems, h.blanked, hws]
  · cases hpart with
    | item hitem hpart =>
      rcases List.mem_cons.mp hitem with rfl | hitem
      · exact h.reasons message hpart
      · exact hrest.reasons message (.item hitem hpart)

/-- An empty map is left as it is. -/
theorem emptyMap : Blanks reasons (.map []) (.map []) :=
  ⟨rfl, fun _ h => by cases h with | key h _ | value h _ => cases h⟩

/-- The key and the value of the first entry are blanked beside the others. -/
theorem entry {key key' : Value} {vs ws : List (Value × Value)} (hkey : Blanks reasons key key') (h : Blanks reasons v w)
    (hrest : Blanks reasons (.map vs) (.map ws)) : Blanks reasons (.map ((key, v) :: vs)) (.map ((key', w) :: ws)) := by
  refine ⟨?_, fun message hpart => ?_⟩
  · have hws : ws = blankedEntries vs := Value.map.inj hrest.blanked
    rw [Value.blanked, blankedEntries, hkey.blanked, h.blanked, hws]
  · cases hpart with
    | key hentry hpart =>
      rcases List.mem_cons.mp hentry with hentry | hentry
      · cases hentry
        exact hkey.reasons message hpart
      · exact hrest.reasons message (.key hentry hpart)
    | value hentry hpart =>
      rcases List.mem_cons.mp hentry with hentry | hentry
      · cases hentry
        exact h.reasons message hpart
      · exact hrest.reasons message (.value hentry hpart)

/-- An empty record is left as it is. -/
theorem emptyRecord : Blanks reasons (.record []) (.record []) :=
  ⟨rfl, fun _ h => by cases h with | field h _ => cases h⟩

/-- The first field is blanked beside the others. -/
theorem field {vs ws : List (String × Value)} (h : Blanks reasons v w) (hrest : Blanks reasons (.record vs) (.record ws))
    (name : String) : Blanks reasons (.record ((name, v) :: vs)) (.record ((name, w) :: ws)) := by
  refine ⟨?_, fun message hpart => ?_⟩
  · have hws : ws = blankedFields vs := Value.record.inj hrest.blanked
    rw [Value.blanked, blankedFields, h.blanked, hws]
  · cases hpart with
    | field hfield hpart =>
      rcases List.mem_cons.mp hfield with hfield | hfield
      · cases hfield
        exact h.reasons message hpart
      · exact hrest.reasons message (.field hfield hpart)

/-! What a template does with the two values. -/

/-- A name leads to a value and to the same value blanked, or it leads nowhere in both. -/
theorem get? (h : Blanks reasons v w) (name : String) : Option.Rel (Blanks reasons) (v.get? name) (w.get? name) := by
  rw [h.blanked, get?_blanked]
  cases hname : v.get? name with
  | none => exact Option.Rel.none
  | some u => exact Option.Rel.some (h.part (part_of_get? hname))

/-- A value and the blanked value decide a block alike. -/
theorem isTruthy (h : Blanks reasons v w) : v.isTruthy = w.isTruthy := by
  rw [h.blanked, isTruthy_blanked]

/-- A loop goes over as many pairs, each blanked. -/
theorem pairs? (h : Blanks reasons v w) :
    Option.Rel (List.Forall₂ fun p q => Blanks reasons p.1 q.1 ∧ Blanks reasons p.2 q.2) v.pairs? w.pairs? := by
  rw [h.blanked, pairs?_blanked]
  cases hpairs : v.pairs? with
  | none => exact Option.Rel.none
  | some pairs =>
    refine Option.Rel.some (List.forall₂_map_right_iff.mpr (List.forall₂_same.mpr fun pair hpair => ?_))
    have hpart : ∀ {u}, (Part u v ∨ ∃ n, u = .ofNat n) → Blanks reasons u u.blanked := by
      rintro u (hu | ⟨n, rfl⟩)
      · exact h.part hu
      · exact number _
    obtain ⟨hkey, hvalue⟩ := part_of_pairs? hpairs hpair
    exact ⟨hpart hkey, hpart hvalue⟩

/-- Null is bound for a value that cannot be, and otherwise the copy is bound as the value is. -/
theorem toArgument (h : Blanks reasons v w) :
    Follows (Error.IsConversion reasons) (Blanks reasons) v.toArgument w.toArgument := by
  have hpart := h.part v.part_peel
  rw [Value.toArgument, Value.toArgument, h.blanked, peel_blanked]
  cases hv : v.peel with
  | unbindable message => exact Follows.fails ⟨message, h.reasons message (hv ▸ v.part_peel), rfl⟩ _
  | _ =>
    rw [hv] at hpart
    exact Follows.ok hpart

end Value.Blanks

end QueryTemplate
