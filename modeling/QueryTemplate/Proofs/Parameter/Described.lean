import QueryTemplate.Proofs.Number.Machine
import QueryTemplate.Proofs.Parameter.Part
import QueryTemplate.Proofs.Value.Recast

/-!
# Values that describe themselves

A value is a parameter too. What it is converted to again has maps for records and integers in their one representation,
and is otherwise the same (`Parameter.toValue_ofValue`). It cannot be converted if something in it cannot be bound. The
integers of a value that a conversion gives have their one representation already (`Parameter.recast_of_convert`).
-/

namespace QueryTemplate

/-- The one representation of the integer that a number is. -/
def Number.normal : Number → Number
  | .uint n => .ofUInt64 n
  | n => n

/-- The representation of an integer is the one representation. -/
theorem Number.normal_of_represents {n : Int} {x : Number} (h : Represents n x) : x.normal = x := by
  cases x with
  | uint m =>
    have hm : Represents n (.ofUInt64 m) := (represents_uint_iff.mp h).1 ▸ represents_ofUInt64 m
    exact hm.unique h
  | _ => rfl

/-! ## What cannot be bound -/

namespace Value

mutual

/-- Why a value cannot be bound with all its parts, keys included: the reason of the first part, in the order of
description, that cannot. -/
def unbindable? : Value → Option String
  | .list items => unbindableOfItems? items
  | .map entries => unbindableOfEntries? entries
  | .record fields => unbindableOfFields? fields
  | .optional inner => unbindable? inner
  | .unbindable message => some message
  | _ => none

/-- Why the elements of a list cannot be bound. -/
def unbindableOfItems? : List Value → Option String
  | [] => none
  | item :: items => (unbindable? item).or (unbindableOfItems? items)

/-- Why the entries of a map cannot be bound. -/
def unbindableOfEntries? : List (Value × Value) → Option String
  | [] => none
  | (key, v) :: entries => (unbindable? key).or ((unbindable? v).or (unbindableOfEntries? entries))

/-- Why the fields of a record cannot be bound. -/
def unbindableOfFields? : List (String × Value) → Option String
  | [] => none
  | (_, v) :: fields => (unbindable? v).or (unbindableOfFields? fields)

end

end Value

namespace Parameter

/-- The result of describing something, unless there is a reason why it cannot be bound. -/
def unlessRefused {α : Type} (reason : Option String) (a : α) : Except Error α :=
  match reason with
  | some message => .error (.conversion message)
  | none => .ok a

/-- One after the other, the first reason counts. -/
theorem unlessRefused_bind {α β : Type} {r s : Option String} {a : α} {b : β} {f : α → Except Error β}
    (hf : f a = unlessRefused s b) : unlessRefused r a >>= f = unlessRefused (r.or s) b := by
  cases r with
  | some message => rfl
  | none => exact hf

/-- What comes after something that may be refused is not reached if it is. -/
theorem unlessRefused_bind_ok {α β : Type} {r : Option String} {a : α} {b : β} {f : α → Except Error β}
    (hf : f a = .ok b) : unlessRefused r a >>= f = unlessRefused r b := by
  cases r with
  | some message => rfl
  | none => exact hf

/-- A number is converted to the one representation of its integer. -/
theorem toValue_ofNumber (n : Number) : (ofNumber n).toValue = .ok (.number n.normal) := by
  cases n <;> rfl

mutual

/-- A value is converted to itself with maps for records and integers in their one representation, or it is refused for
the first of its parts that cannot be bound. -/
theorem toValue_ofValue (v : Value) : (ofValue v).toValue = unlessRefused v.unbindable? (v.recast Number.normal) := by
  match v with
  | .null | .bool _ | .string _ | .bytes _ | .unbindable _ => rfl
  | .number n => exact toValue_ofNumber n
  | .list items =>
    show convertItems .whole (ofItems items) >>= (fun vs => .ok (Value.list vs)) = _
    rw [convertItems_ofItems]
    exact unlessRefused_bind_ok rfl
  | .map entries =>
    show convertSteps .whole none (ofEntries entries) >>= (fun vs => .ok (Value.map vs)) = _
    rw [convertSteps_ofEntries]
    exact unlessRefused_bind_ok rfl
  | .record fields =>
    show convertSteps .whole none (ofFields fields) >>= (fun vs => .ok (Value.map vs)) = _
    rw [convertSteps_ofFields]
    exact unlessRefused_bind_ok rfl
  | .optional inner =>
    show (ofValue inner).toValue >>= (fun w => .ok (Value.optional w)) = _
    rw [toValue_ofValue inner]
    exact unlessRefused_bind_ok rfl

/-- The elements of a list are converted in order, up to the first that cannot be bound. -/
theorem convertItems_ofItems (items : List Value) :
    convertItems .whole (ofItems items) =
      unlessRefused (Value.unbindableOfItems? items) (Value.recastItems Number.normal items) := by
  match items with
  | [] => rfl
  | item :: items =>
    show (ofValue item).toValue >>= (fun v => convertItems .whole (ofItems items) >>= fun vs => .ok (v :: vs)) = _
    rw [toValue_ofValue item, convertItems_ofItems items]
    exact unlessRefused_bind (unlessRefused_bind_ok rfl)

/-- So are the entries of a map, each with its key first. -/
theorem convertSteps_ofEntries (entries : List (Value × Value)) :
    convertSteps .whole none (ofEntries entries) =
      unlessRefused (Value.unbindableOfEntries? entries) (Value.recastEntries Number.normal entries) := by
  match entries with
  | [] => rfl
  | (key, v) :: entries =>
    show (ofValue key).toValue >>= (fun k => (ofValue v).toValue >>= fun w =>
      convertSteps .whole none (ofEntries entries) >>= fun vs => .ok ((k, w) :: vs)) = _
    rw [toValue_ofValue key, toValue_ofValue v, convertSteps_ofEntries entries]
    exact unlessRefused_bind (unlessRefused_bind (unlessRefused_bind_ok rfl))

/-- So are the fields of a record, with their names as keys. -/
theorem convertSteps_ofFields (fields : List (String × Value)) :
    convertSteps .whole none (ofFields fields) =
      unlessRefused (Value.unbindableOfFields? fields) (Value.recastFields Number.normal fields) := by
  match fields with
  | [] => rfl
  | (name, v) :: fields =>
    show (ofValue v).toValue >>= (fun w =>
      convertSteps .whole none (ofFields fields) >>= fun vs => .ok ((.string name, w) :: vs)) = _
    rw [toValue_ofValue v, convertSteps_ofFields fields]
    exact unlessRefused_bind (unlessRefused_bind_ok rfl)

end

/-! ## Integers in converted values -/

mutual

/-- The integers of a value that a conversion gives are in their one representation. -/
theorem recast_of_convert {paths : PathTree} {p : Parameter} {v : Value} (h : convert paths p = .ok v) :
    v.recast Number.normal = v.recast id := by
  match p with
  | .null | .bool _ | .char _ | .string _ | .bytes _ | .variant _ | .binary32 _ | .binary64 _ => cases h; rfl
  | .integer n =>
    rw [convert, convertInteger] at h
    split at h
    · rename_i x hx
      cases h
      exact congrArg Value.number (Number.normal_of_represents (MachineInt.described?_eq_some_iff.mp hx))
    · cases h
  | .optional inner =>
    obtain ⟨w, hw, h⟩ := bind_eq_ok.mp h
    cases h
    rw [Value.recast, Value.recast, recast_of_convert hw]
  | .wrapper inner => exact recast_of_convert (p := inner) h
  | .unbindable content =>
    obtain ⟨w, hw, h⟩ := bind_eq_ok.mp h
    cases h
    rfl
  | .variantOf name inner =>
    rw [convert] at h
    split at h
    · cases h
      rfl
    · obtain ⟨w, hw, h⟩ := bind_eq_ok.mp h
      cases h
      simp only [Value.recast, Value.recastEntries, recast_of_convert hw]
  | .variantList name items =>
    obtain ⟨vs, hvs, h⟩ := bind_eq_ok.mp h
    cases h
    simp only [Value.recast, Value.recastEntries, recastItems_of_convertItems hvs]
  | .variantRecord name fields =>
    rw [convert] at h
    split at h
    · cases h
      rfl
    · obtain ⟨vs, hvs, h⟩ := bind_eq_ok.mp h
      cases h
      simp only [Value.recast, Value.recastEntries, recastFields_of_convertFields hvs]
  | .list items =>
    obtain ⟨vs, hvs, h⟩ := bind_eq_ok.mp h
    cases h
    rw [Value.recast, Value.recast, recastItems_of_convertItems hvs]
  | .map steps =>
    obtain ⟨vs, hvs, h⟩ := bind_eq_ok.mp h
    cases h
    rw [Value.recast, Value.recast, recastEntries_of_convertSteps rfl hvs]
  | .record fields =>
    obtain ⟨vs, hvs, h⟩ := bind_eq_ok.mp h
    cases h
    rw [Value.recast, Value.recast, recastFields_of_convertFields hvs]
  | .refused message => cases h

/-- The integers of the elements of a list are in their one representation. -/
theorem recastItems_of_convertItems {paths : PathTree} {items : List Parameter} {vs : List Value}
    (h : convertItems paths items = .ok vs) : Value.recastItems Number.normal vs = Value.recastItems id vs := by
  match items with
  | [] => cases h; rfl
  | item :: items =>
    obtain ⟨w, hw, h⟩ := bind_eq_ok.mp h
    obtain ⟨ws, hws, h⟩ := bind_eq_ok.mp h
    cases h
    rw [Value.recastItems, Value.recastItems, recast_of_convert hw, recastItems_of_convertItems hws]

/-- The key that waits has come from a conversion as well. -/
theorem recastEntries_of_convertSteps {paths : PathTree} {waiting : Option Value} {steps : List (MapStep Parameter)}
    {vs : List (Value × Value)} (hwaiting : waiting.map (Value.recast Number.normal) = waiting.map (Value.recast id))
    (h : convertSteps paths waiting steps = .ok vs) : Value.recastEntries Number.normal vs = Value.recastEntries id vs := by
  match steps with
  | [] => cases h; rfl
  | .key k :: steps =>
    obtain ⟨key, hkey, h⟩ := bind_eq_ok.mp h
    have hwaiting : (some key).map (Value.recast Number.normal) = (some key).map (Value.recast id) :=
      congrArg some (recast_of_convert hkey)
    exact recastEntries_of_convertSteps hwaiting h
  | .value v :: steps =>
    cases waiting with
    | none => cases h
    | some key =>
      rw [convertSteps] at h
      split at h
      · exact recastEntries_of_convertSteps rfl h
      · obtain ⟨w, hw, h⟩ := bind_eq_ok.mp h
        obtain ⟨ws, hws, h⟩ := bind_eq_ok.mp h
        cases h
        rw [Value.recastEntries, Value.recastEntries, Option.some.inj hwaiting, recast_of_convert hw,
          recastEntries_of_convertSteps rfl hws]

/-- The integers in the fields of a record are in their one representation. -/
theorem recastFields_of_convertFields {paths : PathTree} {fields : List (String × Parameter)}
    {vs : List (String × Value)} (h : convertFields paths fields = .ok vs) :
    Value.recastFields Number.normal vs = Value.recastFields id vs := by
  match fields with
  | [] => cases h; rfl
  | (name, v) :: fields =>
    rw [convertFields] at h
    split at h
    · exact recastFields_of_convertFields h
    · obtain ⟨w, hw, h⟩ := bind_eq_ok.mp h
      obtain ⟨ws, hws, h⟩ := bind_eq_ok.mp h
      cases h
      rw [Value.recastFields, Value.recastFields, recast_of_convert hw, recastFields_of_convertFields hws]

end

/-- A value that a conversion gives, and in which everything can be bound, is converted to itself with maps for records. -/
theorem toValue_ofValue_of_convert {paths : PathTree} {p : Parameter} {v : Value} (h : convert paths p = .ok v)
    (hbindable : v.unbindable? = none) : (ofValue v).toValue = .ok (v.recast id) := by
  rw [toValue_ofValue, hbindable, recast_of_convert h]
  rfl

/-! ## Parts of described values -/

/-- The content of a value that describes itself is the content of the value. -/
theorem content_ofValue (v : Value) : (ofValue v).content = ofValue v.peel := by
  induction v using Value.peel.induct with
  | case1 inner ih => exact ih
  | case2 v h =>
    cases v with
    | optional inner => exact absurd rfl (h inner)
    | number n => cases n <;> rfl
    | _ => rfl

/-- What a map has under a name is a value that describes itself. -/
theorem entryAt?_ofEntries {name : String} {entries : List (Value × Value)} {q : Parameter}
    (h : entryAt? name none (ofEntries entries) = some q) : ∃ w, q = ofValue w := by
  induction entries with
  | nil => cases h
  | cons entry entries ih =>
    obtain ⟨key, v⟩ := entry
    simp only [ofEntries, entryAt?] at h
    split at h
    · cases h
      exact ⟨v, rfl⟩
    · exact ih h

/-- What a record has under a name is a value that describes itself. -/
theorem entryAt?_ofFields {name : String} {fields : List (String × Value)} {q : Parameter}
    (h : entryAt? name none (ofFields fields) = some q) : ∃ w, q = ofValue w := by
  induction fields with
  | nil => cases h
  | cons field fields ih =>
    obtain ⟨key, v⟩ := field
    simp only [ofFields, entryAt?] at h
    split at h
    · cases h
      exact ⟨v, rfl⟩
    · exact ih h

/-- The parts of a value that describes itself are values that describe themselves. -/
theorem part?_ofValue {v : Value} {name : String} {q : Parameter} (h : (ofValue v).part? name = some q) :
    ∃ w, q = ofValue w := by
  rw [part?, content_ofValue] at h
  cases hv : v.peel with
  | map entries =>
    rw [hv] at h
    exact entryAt?_ofEntries h
  | record fields =>
    rw [hv] at h
    exact entryAt?_ofFields h
  | number n => rw [hv] at h; cases n <;> cases h
  | _ => rw [hv] at h; cases h

/-- A value describes no variant, so nothing of it is curtailed. -/
theorem not_lacks_ofValue (paths : PathTree) (v : Value) (path : List String) : ¬Lacks paths (ofValue v) path := by
  refine not_lacks_of_closed (S := fun p => ∃ w, p = ofValue w) ?_ ?_ ⟨v, rfl⟩ paths path
  · rintro _ name q ⟨w, rfl⟩ hq
    exact part?_ofValue hq
  · rintro _ name items ⟨w, rfl⟩ hcontent
    rw [content_ofValue] at hcontent
    cases hw : w.peel with
    | number n => rw [hw] at hcontent; cases n <;> cases hcontent
    | _ => rw [hw] at hcontent; cases hcontent

end Parameter

end QueryTemplate
