import QueryTemplate.Proofs.Outcome
import QueryTemplate.Proofs.Value.Reduced

/-!
# Converting a parameter in part

A parameter that can be converted as a whole can be converted for any tree of paths (`Parameter.exists_convert`). Where no
path leads, the parts under names are left out, and the value is another one exactly if there are any
(`Parameter.reduced_of_convert`).
-/

namespace QueryTemplate

/-- Whether a step in describing a map is a value. -/
def MapStep.isValue {α : Type} : MapStep α → Bool
  | .key _ => false
  | .value _ => true

namespace Parameter

open Value (Less Reduced less_map less_record)

mutual

/-- Whether a parameter has parts under names, also in its elements: fields, entries of a map, or the content of a variant
of one value or with fields. -/
def hasNamedPart : Parameter → Bool
  | .optional inner => hasNamedPart inner
  | .wrapper inner => hasNamedPart inner
  | .unbindable content => hasNamedPart content
  | .variantOf _ _ => true
  | .variantList _ items => anyNamedPart items
  | .variantRecord _ _ => true
  | .list items => anyNamedPart items
  | .map steps => steps.any MapStep.isValue
  | .record fields => !fields.isEmpty
  | _ => false

/-- Whether the values of some parameters have parts under names. -/
def anyNamedPart : List Parameter → Bool
  | [] => false
  | item :: items => hasNamedPart item || anyNamedPart items

end

/-! ## Any part of what can be converted -/

mutual

/-- What can be converted as a whole can be converted for any paths. -/
theorem exists_convert (paths : PathTree) (p : Parameter) {full : Value} (h : convert .whole p = .ok full) :
    ∃ v, convert paths p = .ok v := by
  match p with
  | .null => exact ⟨_, rfl⟩
  | .bool b => exact ⟨_, rfl⟩
  | .integer n => exact ⟨full, h⟩
  | .binary32 bits => exact ⟨_, rfl⟩
  | .binary64 x => exact ⟨_, rfl⟩
  | .char c => exact ⟨_, rfl⟩
  | .string s => exact ⟨_, rfl⟩
  | .bytes bs => exact ⟨_, rfl⟩
  | .optional inner =>
    obtain ⟨w, hw, _⟩ := bind_eq_ok.mp h
    obtain ⟨v, hv⟩ := exists_convert paths inner hw
    exact ⟨_, bind_eq_ok.mpr ⟨v, hv, rfl⟩⟩
  | .wrapper inner => exact exists_convert paths inner h
  | .unbindable content =>
    obtain ⟨w, hw, _⟩ := bind_eq_ok.mp h
    obtain ⟨v, hv⟩ := exists_convert paths content hw
    exact ⟨_, bind_eq_ok.mpr ⟨v, hv, rfl⟩⟩
  | .variant name => exact ⟨_, rfl⟩
  | .variantOf name inner =>
    obtain ⟨w, hw, _⟩ := bind_eq_ok.mp h
    rw [convert]
    cases paths.entry? name with
    | none => exact ⟨_, rfl⟩
    | some below =>
      obtain ⟨v, hv⟩ := exists_convert below inner hw
      exact ⟨_, bind_eq_ok.mpr ⟨v, hv, rfl⟩⟩
  | .variantList name items =>
    obtain ⟨ws, hws, _⟩ := bind_eq_ok.mp h
    obtain ⟨vs, hvs⟩ := exists_convertItems paths.elements items hws
    exact ⟨_, bind_eq_ok.mpr ⟨vs, hvs, rfl⟩⟩
  | .variantRecord name fields =>
    obtain ⟨ws, hws, _⟩ := bind_eq_ok.mp h
    rw [convert]
    cases paths.entry? name with
    | none => exact ⟨_, rfl⟩
    | some below =>
      obtain ⟨vs, hvs⟩ := exists_convertFields below fields hws
      exact ⟨_, bind_eq_ok.mpr ⟨vs, hvs, rfl⟩⟩
  | .list items =>
    obtain ⟨ws, hws, _⟩ := bind_eq_ok.mp h
    obtain ⟨vs, hvs⟩ := exists_convertItems paths.elements items hws
    exact ⟨_, bind_eq_ok.mpr ⟨vs, hvs, rfl⟩⟩
  | .map steps =>
    obtain ⟨ws, hws, _⟩ := bind_eq_ok.mp h
    obtain ⟨vs, hvs⟩ := exists_convertSteps paths none steps hws
    exact ⟨_, bind_eq_ok.mpr ⟨vs, hvs, rfl⟩⟩
  | .record fields =>
    obtain ⟨ws, hws, _⟩ := bind_eq_ok.mp h
    obtain ⟨vs, hvs⟩ := exists_convertFields paths fields hws
    exact ⟨_, bind_eq_ok.mpr ⟨vs, hvs, rfl⟩⟩
  | .refused message => cases h

/-- So can the elements of lists. -/
theorem exists_convertItems (paths : PathTree) (items : List Parameter) {full : List Value}
    (h : convertItems .whole items = .ok full) : ∃ vs, convertItems paths items = .ok vs := by
  match items with
  | [] => exact ⟨_, rfl⟩
  | item :: items =>
    obtain ⟨w, hw, h⟩ := bind_eq_ok.mp h
    obtain ⟨ws, hws, _⟩ := bind_eq_ok.mp h
    obtain ⟨v, hv⟩ := exists_convert paths item hw
    obtain ⟨vs, hvs⟩ := exists_convertItems paths items hws
    exact ⟨_, bind_eq_ok.mpr ⟨v, hv, bind_eq_ok.mpr ⟨vs, hvs, rfl⟩⟩⟩

/-- So can the entries of maps. -/
theorem exists_convertSteps (paths : PathTree) (waiting : Option Value) (steps : List (MapStep Parameter))
    {full : List (Value × Value)} (h : convertSteps .whole waiting steps = .ok full) :
    ∃ vs, convertSteps paths waiting steps = .ok vs := by
  match steps with
  | [] => exact ⟨_, rfl⟩
  | .key k :: steps =>
    obtain ⟨key, hkey, h⟩ := bind_eq_ok.mp h
    obtain ⟨vs, hvs⟩ := exists_convertSteps paths (some key) steps h
    exact ⟨_, bind_eq_ok.mpr ⟨key, hkey, hvs⟩⟩
  | .value v :: steps =>
    cases waiting with
    | none => cases h
    | some key =>
      obtain ⟨w, hw, h⟩ := bind_eq_ok.mp h
      obtain ⟨ws, hws, _⟩ := bind_eq_ok.mp h
      obtain ⟨vs, hvs⟩ := exists_convertSteps paths none steps hws
      rw [convertSteps]
      cases entryFor? paths key with
      | none => exact ⟨vs, hvs⟩
      | some below =>
        obtain ⟨v, hv⟩ := exists_convert below v hw
        exact ⟨_, bind_eq_ok.mpr ⟨v, hv, bind_eq_ok.mpr ⟨vs, hvs, rfl⟩⟩⟩

/-- So can the fields of records. -/
theorem exists_convertFields (paths : PathTree) (fields : List (String × Parameter)) {full : List (String × Value)}
    (h : convertFields .whole fields = .ok full) : ∃ vs, convertFields paths fields = .ok vs := by
  match fields with
  | [] => exact ⟨_, rfl⟩
  | (name, v) :: fields =>
    obtain ⟨w, hw, h⟩ := bind_eq_ok.mp h
    obtain ⟨ws, hws, _⟩ := bind_eq_ok.mp h
    obtain ⟨vs, hvs⟩ := exists_convertFields paths fields hws
    rw [convertFields]
    cases paths.entry? name with
    | none => exact ⟨vs, hvs⟩
    | some below =>
      obtain ⟨v, hv⟩ := exists_convert below v hw
      exact ⟨_, bind_eq_ok.mpr ⟨v, hv, bind_eq_ok.mpr ⟨vs, hvs, rfl⟩⟩⟩

end

/-! ## Nothing below a name -/

/-- Without paths no entry of a map is needed. -/
theorem convertSteps_empty {waiting : Option Value} {steps : List (MapStep Parameter)} {vs : List (Value × Value)}
    (h : convertSteps .empty waiting steps = .ok vs) : vs = [] := by
  induction steps generalizing waiting with
  | nil => cases h; rfl
  | cons step steps ih =>
    cases step with
    | key k =>
      obtain ⟨key, _, h⟩ := bind_eq_ok.mp h
      exact ih h
    | value v =>
      cases waiting with
      | none => cases h
      | some key =>
        have hneeded : entryFor? .empty key = none := by cases key <;> rfl
        rw [convertSteps, hneeded] at h
        exact ih h

/-- A whole map has an entry for each value that describes it. -/
theorem convertSteps_whole {waiting : Option Value} {steps : List (MapStep Parameter)} {ws : List (Value × Value)}
    (h : convertSteps .whole waiting steps = .ok ws) : ws = [] ↔ steps.any MapStep.isValue = false := by
  induction steps generalizing waiting ws with
  | nil => cases h; simp
  | cons step steps ih =>
    cases step with
    | key k =>
      obtain ⟨key, _, h⟩ := bind_eq_ok.mp h
      simpa [MapStep.isValue] using ih h
    | value v =>
      cases waiting with
      | none => cases h
      | some key =>
        obtain ⟨w, _, h⟩ := bind_eq_ok.mp h
        obtain ⟨ws, _, h⟩ := bind_eq_ok.mp h
        cases h
        simp [MapStep.isValue]

/-- Without paths no field of a record is needed. -/
theorem convertFields_empty {fields : List (String × Parameter)} {vs : List (String × Value)}
    (h : convertFields .empty fields = .ok vs) : vs = [] := by
  induction fields with
  | nil => cases h; rfl
  | cons field fields ih => exact ih h

/-- A whole record has all fields. -/
theorem convertFields_whole {fields : List (String × Parameter)} {ws : List (String × Value)}
    (h : convertFields .whole fields = .ok ws) : ws = [] ↔ fields = [] := by
  cases fields with
  | nil => cases h; simp
  | cons field fields =>
    obtain ⟨w, _, h⟩ := bind_eq_ok.mp h
    obtain ⟨ws, _, h⟩ := bind_eq_ok.mp h
    cases h
    simp

mutual

/-- Without paths a value lacks the parts under names. -/
theorem reduced_of_convert (p : Parameter) {v full : Value} (hfull : convert .whole p = .ok full)
    (h : convert .empty p = .ok v) : Reduced v full ∧ (v = full ↔ hasNamedPart p = false) := by
  match p with
  | .optional inner =>
    obtain ⟨w, hw, hfull⟩ := bind_eq_ok.mp hfull
    obtain ⟨v, hv, h⟩ := bind_eq_ok.mp h
    cases hfull
    cases h
    obtain ⟨hreduced, hiff⟩ := reduced_of_convert inner hw hv
    refine ⟨?_, by rw [hasNamedPart, ← hiff, Value.optional.injEq]⟩
    rcases hreduced with rfl | hless
    · exact Or.inl rfl
    · exact Or.inr hless.optional
  | .wrapper inner => exact reduced_of_convert inner hfull h
  | .unbindable content =>
    obtain ⟨w, hw, hfull⟩ := bind_eq_ok.mp hfull
    obtain ⟨v, hv, h⟩ := bind_eq_ok.mp h
    cases hfull
    cases h
    obtain ⟨hreduced, hiff⟩ := reduced_of_convert content hw hv
    rw [hasNamedPart, ← hiff]
    rcases hreduced with rfl | hless
    · exact ⟨Or.inl rfl, by simp⟩
    · exact ⟨Or.inr hless.unbindable, by simp [hless.unbindable.ne, hless.ne]⟩
  | .variantOf name inner =>
    obtain ⟨w, hw, hfull⟩ := bind_eq_ok.mp hfull
    cases hfull
    cases h
    have hless : Less (.map []) (.map [(.string name, w)]) := less_map (by simp)
    exact ⟨Or.inr hless, by simp [hasNamedPart]⟩
  | .variantList name items =>
    obtain ⟨ws, hws, hfull⟩ := bind_eq_ok.mp hfull
    obtain ⟨vs, hvs, h⟩ := bind_eq_ok.mp h
    cases hfull
    cases h
    obtain ⟨hreduced, hiff⟩ := reduced_of_convertItems items hws hvs
    exact ⟨(Reduced.list hreduced).entry _, by simp [hasNamedPart, hiff]⟩
  | .variantRecord name fields =>
    obtain ⟨ws, hws, hfull⟩ := bind_eq_ok.mp hfull
    cases hfull
    cases h
    have hless : Less (.map []) (.map [(.string name, .record ws)]) := less_map (by simp)
    exact ⟨Or.inr hless, by simp [hasNamedPart]⟩
  | .list items =>
    obtain ⟨ws, hws, hfull⟩ := bind_eq_ok.mp hfull
    obtain ⟨vs, hvs, h⟩ := bind_eq_ok.mp h
    cases hfull
    cases h
    obtain ⟨hreduced, hiff⟩ := reduced_of_convertItems items hws hvs
    exact ⟨Reduced.list hreduced, by simp [hasNamedPart, hiff]⟩
  | .map steps =>
    obtain ⟨ws, hws, hfull⟩ := bind_eq_ok.mp hfull
    obtain ⟨vs, hvs, h⟩ := bind_eq_ok.mp h
    cases hfull
    cases h
    rw [convertSteps_empty hvs, hasNamedPart, ← convertSteps_whole hws]
    by_cases hempty : ws = []
    · rw [hempty]
      exact ⟨Or.inl rfl, by simp⟩
    · exact ⟨Or.inr (less_map hempty), by rw [Value.map.injEq, eq_comm]⟩
  | .record fields =>
    obtain ⟨ws, hws, hfull⟩ := bind_eq_ok.mp hfull
    obtain ⟨vs, hvs, h⟩ := bind_eq_ok.mp h
    cases hfull
    cases h
    rw [convertFields_empty hvs, hasNamedPart, Bool.not_eq_false', List.isEmpty_iff, ← convertFields_whole hws]
    by_cases hempty : ws = []
    · rw [hempty]
      exact ⟨Or.inl rfl, by simp⟩
    · exact ⟨Or.inr (less_record hempty), by rw [Value.record.injEq, eq_comm]⟩
  | .refused message => cases h
  | .null | .bool _ | .integer _ | .binary32 _ | .binary64 _ | .char _ | .string _ | .bytes _ | .variant _ =>
    have heq : v = full := Except.ok.inj (h.symm.trans hfull)
    exact ⟨Or.inl heq, by simp [heq, hasNamedPart]⟩

/-- Without paths the elements of a list lack the parts under names. -/
theorem reduced_of_convertItems (items : List Parameter) {vs full : List Value}
    (hfull : convertItems .whole items = .ok full) (h : convertItems .empty items = .ok vs) :
    List.Forall₂ Reduced vs full ∧ (vs = full ↔ anyNamedPart items = false) := by
  match items with
  | [] =>
    cases hfull
    cases h
    exact ⟨List.Forall₂.nil, by simp [anyNamedPart]⟩
  | item :: items =>
    obtain ⟨w, hw, hfull⟩ := bind_eq_ok.mp hfull
    obtain ⟨ws, hws, hfull⟩ := bind_eq_ok.mp hfull
    obtain ⟨v, hv, h⟩ := bind_eq_ok.mp h
    obtain ⟨vs, hvs, h⟩ := bind_eq_ok.mp h
    cases hfull
    cases h
    obtain ⟨hhead, hheadIff⟩ := reduced_of_convert item hw hv
    obtain ⟨htail, htailIff⟩ := reduced_of_convertItems items hws hvs
    refine ⟨List.Forall₂.cons hhead htail, ?_⟩
    rw [anyNamedPart, Bool.or_eq_false_iff, ← hheadIff, ← htailIff, List.cons.injEq]

end

end Parameter

end QueryTemplate
