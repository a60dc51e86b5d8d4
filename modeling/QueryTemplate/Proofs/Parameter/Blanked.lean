import QueryTemplate.Parameter.Conversion
import QueryTemplate.Proofs.Value.Blanked

/-!
# Parameters with null for what fails

A conversion that has failed for a value alone describes itself by the reason, and null may stand in its place as well
(`Parameter.blanked`). Then the value of the parameter has null for what cannot be bound, whatever paths are needed of
it, and errors stay the same (`Parameter.convert_blanked`).
-/

namespace QueryTemplate

namespace Parameter

/-- Somewhere in the parameter is something that cannot be bound, with some content that tells why. -/
inductive Fails : Parameter → Parameter → Prop where
  | itself (content : Parameter) : Fails (.unbindable content) content
  | optional {inner content : Parameter} : Fails inner content → Fails (.optional inner) content
  | wrapper {inner content : Parameter} : Fails inner content → Fails (.wrapper inner) content
  | variantOf {name : String} {inner content : Parameter} : Fails inner content → Fails (.variantOf name inner) content
  | variantItem {name : String} {items : List Parameter} {item content : Parameter} :
      item ∈ items → Fails item content → Fails (.variantList name items) content
  | variantField {variant name : String} {fields : List (String × Parameter)} {v content : Parameter} :
      (name, v) ∈ fields → Fails v content → Fails (.variantRecord variant fields) content
  | item {items : List Parameter} {item content : Parameter} :
      item ∈ items → Fails item content → Fails (.list items) content
  | key {steps : List (MapStep Parameter)} {k content : Parameter} :
      .key k ∈ steps → Fails k content → Fails (.map steps) content
  | value {steps : List (MapStep Parameter)} {v content : Parameter} :
      .value v ∈ steps → Fails v content → Fails (.map steps) content
  | field {name : String} {fields : List (String × Parameter)} {v content : Parameter} :
      (name, v) ∈ fields → Fails v content → Fails (.record fields) content

/-- The reasons why something in the parameter cannot be bound are texts, and are among some. -/
def FailsFor (reasons : String → Prop) (p : Parameter) : Prop :=
  ∀ content, p.Fails content → ∃ message, content = .string message ∧ reasons message

mutual

/-- The parameter with null for everything in it that cannot be bound. -/
def blanked : Parameter → Parameter
  | .unbindable _ => .null
  | .optional inner => .optional (blanked inner)
  | .wrapper inner => .wrapper (blanked inner)
  | .variantOf name inner => .variantOf name (blanked inner)
  | .variantList name items => .variantList name (blankedItems items)
  | .variantRecord name fields => .variantRecord name (blankedFields fields)
  | .list items => .list (blankedItems items)
  | .map steps => .map (blankedSteps steps)
  | .record fields => .record (blankedFields fields)
  | p => p

/-- The elements of a list, each with null for what cannot be bound. -/
def blankedItems : List Parameter → List Parameter
  | [] => []
  | item :: items => blanked item :: blankedItems items

/-- The steps that describe a map, with null for what cannot be bound in keys and in values. -/
def blankedSteps : List (MapStep Parameter) → List (MapStep Parameter)
  | [] => []
  | .key k :: steps => .key (blanked k) :: blankedSteps steps
  | .value v :: steps => .value (blanked v) :: blankedSteps steps

/-- The fields of a record, each with null for what cannot be bound. -/
def blankedFields : List (String × Parameter) → List (String × Parameter)
  | [] => []
  | (name, v) :: fields => (name, blanked v) :: blankedFields fields

end

variable {reasons : String → Prop}

/-- Null is a key that no path leads through, like what cannot be bound. -/
theorem entryFor?_blanks {key key' : Value} (h : Value.Blanks reasons key key') (paths : PathTree) :
    entryFor? paths key = entryFor? paths key' := by
  rw [h.blanked]
  cases paths <;> cases key <;> rfl

mutual

/-- The parameter with null for what cannot be bound is converted as the parameter is, to the value with null for what
cannot be bound. -/
theorem convert_blanked (paths : PathTree) {p : Parameter} (h : p.FailsFor reasons) :
    Alike Eq (Value.Blanks reasons) (convert paths p) (convert paths p.blanked) := by
  match p with
  | .null => exact Alike.ok .null
  | .bool b => exact Alike.ok (.bool b)
  | .binary32 _ | .binary64 _ => exact Alike.ok (.number _)
  | .char _ | .string _ | .variant _ => exact Alike.ok (.string _)
  | .bytes bs => exact Alike.ok (.bytes bs)
  | .refused message => exact Alike.error rfl
  | .integer n =>
    show Alike Eq _ (convertInteger n) (convertInteger n)
    rw [convertInteger]
    split
    · exact Alike.ok (.number _)
    · exact Alike.error rfl
  | .unbindable content =>
    obtain ⟨message, rfl, hmessage⟩ := h content (.itself content)
    exact Alike.ok (.unbindable hmessage)
  | .optional inner =>
    have hinner := convert_blanked paths fun content hcontent => h content (.optional hcontent)
    exact hinner.bind fun v w hvw => Alike.ok hvw.optional
  | .wrapper inner =>
    have hinner : inner.FailsFor reasons := fun content hcontent => h content (.wrapper hcontent)
    show Alike Eq _ (convert paths inner) (convert paths inner.blanked)
    exact convert_blanked paths hinner
  | .variantOf name inner =>
    rw [blanked, convert, convert]
    cases paths.entry? name with
    | none => exact Alike.ok .emptyMap
    | some below =>
      have hinner := convert_blanked below fun content hcontent => h content (.variantOf hcontent)
      exact hinner.bind fun v w hvw => Alike.ok (.entry (.string name) hvw .emptyMap)
  | .variantList name items =>
    have hitems := convertItems_blankedItems paths.elements fun item hitem content hcontent =>
      h content (.variantItem hitem hcontent)
    exact hitems.bind fun vs ws hvws => Alike.ok (.entry (.string name) hvws .emptyMap)
  | .variantRecord name fields =>
    rw [blanked, convert, convert]
    cases paths.entry? name with
    | none => exact Alike.ok .emptyMap
    | some below =>
      have hfields := convertFields_blankedFields below fun name v hv content hcontent =>
        h content (.variantField hv hcontent)
      exact hfields.bind fun vs ws hvws => Alike.ok (.entry (.string name) hvws .emptyMap)
  | .list items =>
    have hitems := convertItems_blankedItems paths.elements fun item hitem content hcontent =>
      h content (.item hitem hcontent)
    exact hitems.bind fun vs ws hvws => Alike.ok hvws
  | .map steps =>
    have hkeys : ∀ k, .key k ∈ steps → k.FailsFor reasons := fun k hk content hcontent => h content (.key hk hcontent)
    have hvalues : ∀ v, .value v ∈ steps → v.FailsFor reasons := fun v hv content hcontent =>
      h content (.value hv hcontent)
    have hsteps := convertSteps_blankedSteps paths .none hkeys hvalues
    exact hsteps.bind fun vs ws hvws => Alike.ok hvws
  | .record fields =>
    have hfields := convertFields_blankedFields paths fun name v hv content hcontent => h content (.field hv hcontent)
    exact hfields.bind fun vs ws hvws => Alike.ok hvws

theorem convertItems_blankedItems (paths : PathTree) {items : List Parameter}
    (h : ∀ item ∈ items, item.FailsFor reasons) :
    Alike Eq (fun vs ws => Value.Blanks reasons (.list vs) (.list ws)) (convertItems paths items)
      (convertItems paths (blankedItems items)) := by
  match items with
  | [] => exact Alike.ok .emptyList
  | item :: items =>
    have hitem := convert_blanked paths (h item List.mem_cons_self)
    have hitems := convertItems_blankedItems paths fun other hother => h other (List.mem_cons_of_mem item hother)
    exact hitem.bind fun v w hvw => hitems.bind fun vs ws hvws => Alike.ok (hvw.item hvws)

/-- The keys that wait are alike as well. -/
theorem convertSteps_blankedSteps (paths : PathTree) {waiting waiting' : Option Value} {steps : List (MapStep Parameter)}
    (hwaiting : Option.Rel (Value.Blanks reasons) waiting waiting') (hkeys : ∀ k, .key k ∈ steps → k.FailsFor reasons)
    (hvalues : ∀ v, .value v ∈ steps → v.FailsFor reasons) :
    Alike Eq (fun vs ws => Value.Blanks reasons (.map vs) (.map ws)) (convertSteps paths waiting steps)
      (convertSteps paths waiting' (blankedSteps steps)) := by
  match steps with
  | [] => exact Alike.ok .emptyMap
  | .key k :: steps =>
    have hkeys' : ∀ k, .key k ∈ steps → k.FailsFor reasons := fun k hk => hkeys k (List.mem_cons_of_mem _ hk)
    have hvalues' : ∀ v, .value v ∈ steps → v.FailsFor reasons := fun v hv => hvalues v (List.mem_cons_of_mem _ hv)
    have hkey := convert_blanked .whole (hkeys k List.mem_cons_self)
    exact hkey.bind fun key key' hkey => convertSteps_blankedSteps paths (.some hkey) hkeys' hvalues'
  | .value v :: steps =>
    have hkeys' : ∀ k, .key k ∈ steps → k.FailsFor reasons := fun k hk => hkeys k (List.mem_cons_of_mem _ hk)
    have hvalues' : ∀ v, .value v ∈ steps → v.FailsFor reasons := fun v hv => hvalues v (List.mem_cons_of_mem _ hv)
    have hsteps := convertSteps_blankedSteps paths .none hkeys' hvalues'
    cases hwaiting with
    | none => exact Alike.error rfl
    | @some key key' hkey =>
      -- no path leads through either key unless both are the same string, so the same entries are left out
      rw [blankedSteps, convertSteps, convertSteps, entryFor?_blanks hkey]
      cases entryFor? paths key' with
      | none => exact hsteps
      | some below =>
        have hvalue := convert_blanked below (hvalues v List.mem_cons_self)
        exact hvalue.bind fun v w hvw => hsteps.bind fun vs ws hvws => Alike.ok (.entry hkey hvw hvws)

theorem convertFields_blankedFields (paths : PathTree) {fields : List (String × Parameter)}
    (h : ∀ name v, (name, v) ∈ fields → v.FailsFor reasons) :
    Alike Eq (fun vs ws => Value.Blanks reasons (.record vs) (.record ws)) (convertFields paths fields)
      (convertFields paths (blankedFields fields)) := by
  match fields with
  | [] => exact Alike.ok .emptyRecord
  | (name, v) :: fields =>
    have hfields := convertFields_blankedFields paths fun name v hv => h name v (List.mem_cons_of_mem _ hv)
    rw [blankedFields, convertFields, convertFields]
    cases paths.entry? name with
    | none => exact hfields
    | some below =>
      have hvalue := convert_blanked below (h name v List.mem_cons_self)
      exact hvalue.bind fun v w hvw => hfields.bind fun vs ws hvws => Alike.ok (hvw.field hvws name)

end

end Parameter

end QueryTemplate
