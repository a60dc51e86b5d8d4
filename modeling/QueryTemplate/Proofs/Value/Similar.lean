import Mathlib.Data.List.Forall2
import QueryTemplate.Proofs.Value.Replaced

/-!
# Values of one shape

Two values are similar when they differ only in what a query never shows: in the contents of scalars with the same truth,
in the bytes that are not zero, and in the reasons why something cannot be bound. Everything a template may do with a
value keeps similarity: following a path, testing, visiting the elements (`Similar.lookup?`, `Similar.isTruthy`,
`Similar.pairs?`).
-/

namespace QueryTemplate

namespace Value

/-- The values without parts that are neither null nor bytes. -/
def isScalar : Value → Bool
  | .bool _ | .number _ | .string _ => true
  | _ => false

/-- Values of one shape. -/
inductive Similar : Value → Value → Prop where
  | null : Similar .null .null
  | unbindable (message message' : String) : Similar (.unbindable message) (.unbindable message')
  | optional {v w : Value} : Similar v w → Similar (.optional v) (.optional w)
  | list {vs ws : List Value} : List.Forall₂ Similar vs ws → Similar (.list vs) (.list ws)
  /-- Maps have the same keys in the same order. -/
  | map {vs ws : List (Value × Value)} : vs.map Prod.fst = ws.map Prod.fst →
      List.Forall₂ Similar (vs.map Prod.snd) (ws.map Prod.snd) → Similar (.map vs) (.map ws)
  /-- Records have the same names in the same order. -/
  | record {vs ws : List (String × Value)} : vs.map Prod.fst = ws.map Prod.fst →
      List.Forall₂ Similar (vs.map Prod.snd) (ws.map Prod.snd) → Similar (.record vs) (.record ws)
  /-- Bytes are zero at the same places. -/
  | bytes {bs cs : List UInt8} : bs.map (· == 0) = cs.map (· == 0) → Similar (.bytes bs) (.bytes cs)
  | scalar {v w : Value} : v.isScalar = true → w.isScalar = true → v.isTruthy = w.isTruthy → Similar v w

namespace Similar

mutual

/-- A value is similar to itself. -/
theorem refl (v : Value) : Similar v v := by
  match v with
  | .null => exact Similar.null
  | .bool b => exact Similar.scalar rfl rfl rfl
  | .number n => exact Similar.scalar rfl rfl rfl
  | .string s => exact Similar.scalar rfl rfl rfl
  | .bytes bs => exact Similar.bytes rfl
  | .list items => exact Similar.list (refl_list items)
  | .map entries => exact Similar.map rfl (refl_entries entries)
  | .record fields => exact Similar.record rfl (refl_fields fields)
  | .optional inner => exact Similar.optional (refl inner)
  | .unbindable message => exact Similar.unbindable message message

/-- Lists are similar to themselves, element by element. -/
theorem refl_list (vs : List Value) : List.Forall₂ Similar vs vs := by
  match vs with
  | [] => exact List.Forall₂.nil
  | v :: vs => exact List.Forall₂.cons (refl v) (refl_list vs)

/-- So are the values of maps. -/
theorem refl_entries (entries : List (Value × Value)) :
    List.Forall₂ Similar (entries.map Prod.snd) (entries.map Prod.snd) := by
  match entries with
  | [] => exact List.Forall₂.nil
  | (_, v) :: entries => exact List.Forall₂.cons (refl v) (refl_entries entries)

/-- So are the values of records. -/
theorem refl_fields (fields : List (String × Value)) :
    List.Forall₂ Similar (fields.map Prod.snd) (fields.map Prod.snd) := by
  match fields with
  | [] => exact List.Forall₂.nil
  | (_, v) :: fields => exact List.Forall₂.cons (refl v) (refl_fields fields)

end

/-- What holds of similar values that are not optional, and goes over to the optional values around two values, holds of
all similar values. -/
theorem content_induction {P : Value → Value → Prop} (hoptional : ∀ v w, P v w → P (.optional v) (.optional w))
    (hother : ∀ v w, Similar v w → (∀ inner, v ≠ .optional inner) → P v w) {v w : Value} (h : Similar v w) :
    P v w := by
  induction v using Value.peel.induct generalizing w with
  | case1 inner ih =>
    cases h with
    | optional h => exact hoptional _ _ (ih h)
    | scalar hv _ _ => cases hv
  | case2 v hv => exact hother v w h hv

/-! ## Truth -/

/-- Similar values hold alike. -/
theorem isTruthy {v w : Value} (h : Similar v w) : v.isTruthy = w.isTruthy := by
  cases h with
  | null => rfl
  | unbindable message message' => rfl
  | optional h => rfl
  | list h =>
    simp only [Value.isTruthy]
    cases h <;> rfl
  | map hkeys h =>
    have hempty := congrArg List.isEmpty hkeys
    rw [List.isEmpty_map, List.isEmpty_map] at hempty
    rw [Value.isTruthy, Value.isTruthy, hempty]
  | record hnames h => rfl
  | bytes h =>
    have hempty := congrArg List.isEmpty h
    rw [List.isEmpty_map, List.isEmpty_map] at hempty
    rw [Value.isTruthy, Value.isTruthy, hempty]
  | scalar hv hw h => exact h

/-! ## Paths -/

/-- Entries with the same keys and similar values, one by one. -/
theorem forall₂_entries {κ : Type} {vs ws : List (κ × Value)} (hkeys : vs.map Prod.fst = ws.map Prod.fst)
    (h : List.Forall₂ Similar (vs.map Prod.snd) (ws.map Prod.snd)) :
    List.Forall₂ (fun p q => p.1 = q.1 ∧ Similar p.2 q.2) vs ws := by
  induction vs generalizing ws with
  | nil =>
    cases ws with
    | nil => exact List.Forall₂.nil
    | cons q ws => cases hkeys
  | cons p vs ih =>
    cases ws with
    | nil => cases hkeys
    | cons q ws =>
      simp only [List.map_cons, List.cons.injEq] at hkeys
      obtain ⟨hkey, hkeys⟩ := hkeys
      cases h with
      | cons hhead htail => exact List.Forall₂.cons ⟨hkey, hhead⟩ (ih hkeys htail)

/-- Entries of one key among similar entries are similar. -/
theorem entry? {vs ws : List (Value × Value)} (h : List.Forall₂ (fun p q => p.1 = q.1 ∧ Similar p.2 q.2) vs ws)
    (name : String) : Option.Rel Similar (Value.entry? name vs) (Value.entry? name ws) := by
  induction h with
  | nil => exact Option.Rel.none
  | @cons p q vs ws hhead htail ih =>
    obtain ⟨key, v⟩ := p
    obtain ⟨key', w⟩ := q
    obtain ⟨rfl, hvw⟩ : key = key' ∧ Similar v w := hhead
    cases key with
    | string key =>
      simp only [Value.entry?]
      split
      · exact Option.Rel.some hvw
      · exact ih
    | _ => exact ih

/-- Fields of one name among similar fields are similar. -/
theorem field? {vs ws : List (String × Value)} (h : List.Forall₂ (fun p q => p.1 = q.1 ∧ Similar p.2 q.2) vs ws)
    (name : String) : Option.Rel Similar (Value.field? name vs) (Value.field? name ws) := by
  induction h with
  | nil => exact Option.Rel.none
  | @cons p q vs ws hhead htail ih =>
    obtain ⟨key, v⟩ := p
    obtain ⟨key', w⟩ := q
    obtain ⟨rfl, hvw⟩ : key = key' ∧ Similar v w := hhead
    simp only [Value.field?]
    split
    · exact Option.Rel.some hvw
    · exact ih

/-- Nothing leads on from a scalar. -/
theorem get?_of_isScalar {v : Value} (h : v.isScalar = true) (name : String) : v.get? name = none := by
  cases v with
  | bool b => rfl
  | number n => rfl
  | string s => rfl
  | _ => cases h

/-- One name leads from similar values to similar values. -/
theorem get? {v w : Value} (h : Similar v w) (name : String) : Option.Rel Similar (v.get? name) (w.get? name) := by
  refine content_induction (P := fun v w => Option.Rel Similar (v.get? name) (w.get? name)) (fun _ _ ih => ih) ?_ h
  intro v w h hv
  cases h with
  | map hkeys h => exact entry? (forall₂_entries hkeys h) name
  | record hnames h => exact field? (forall₂_entries hnames h) name
  | optional h => exact absurd rfl (hv _)
  | scalar hv hw h =>
    rw [get?_of_isScalar hv, get?_of_isScalar hw]
    exact Option.Rel.none
  | _ => exact Option.Rel.none

/-- A path leads from similar values to similar values. -/
theorem lookup? {v w : Value} (h : Similar v w) (path : List String) :
    Option.Rel Similar (v.lookup? path) (w.lookup? path) :=
  rel_lookup? get? h path

/-! ## Elements -/

/-- Elements with similar keys, one by one. -/
abbrev Pairs (ps qs : List (Value × Value)) : Prop :=
  List.Forall₂ (fun p q => Similar p.1 q.1 ∧ Similar p.2 q.2) ps qs

/-- Elements with similar keys are as many. -/
theorem Pairs.isEmpty {ps qs : List (Value × Value)} (h : Pairs ps qs) : ps.isEmpty = qs.isEmpty := by
  cases h <;> rfl

/-- The elements of similar lists, each with its index. -/
theorem pairs_of_list {vs ws : List Value} (h : List.Forall₂ Similar vs ws) (start : Nat) :
    Pairs ((vs.zipIdx start).map fun (item, i) => (ofNat i, item))
      ((ws.zipIdx start).map fun (item, i) => (ofNat i, item)) := by
  induction h generalizing start with
  | nil => exact List.Forall₂.nil
  | cons hhead htail ih => exact List.Forall₂.cons ⟨refl _, hhead⟩ (ih (start + 1))

/-- A byte holds when it is not zero. -/
theorem isTruthy_byte (b : UInt8) : (ofNat b.toNat).isTruthy = !(b == 0) := by
  have hb := b.toNat_lt
  have hint : (Int64.ofNat b.toNat).toInt = b.toNat := Int64.toInt_ofNat_of_lt (by omega)
  have hzero : Int64.ofNat b.toNat = 0 ↔ b = 0 := by
    rw [← Int64.toInt_inj, hint, ← UInt8.toNat_inj]
    simp
  simp only [ofNat, Value.isTruthy, Number.isZero]
  by_cases h : b = 0
  · rw [beq_iff_eq.mpr (hzero.mpr h), beq_iff_eq.mpr h]
  · rw [beq_eq_false_iff_ne.mpr (fun h' => h (hzero.mp h')), beq_eq_false_iff_ne.mpr h]

/-- The elements of bytes that are zero at the same places, each with its index. -/
theorem pairs_of_bytes {bs cs : List UInt8} (h : bs.map (· == 0) = cs.map (· == 0)) (start : Nat) :
    Pairs ((bs.zipIdx start).map fun (b, i) => (ofNat i, ofNat b.toNat))
      ((cs.zipIdx start).map fun (b, i) => (ofNat i, ofNat b.toNat)) := by
  induction bs generalizing cs start with
  | nil =>
    cases cs with
    | nil => exact List.Forall₂.nil
    | cons c cs => cases h
  | cons b bs ih =>
    cases cs with
    | nil => cases h
    | cons c cs =>
      simp only [List.map_cons, List.cons.injEq] at h
      obtain ⟨hhead, htail⟩ := h
      refine List.Forall₂.cons ⟨refl _, Similar.scalar rfl rfl ?_⟩ (ih htail (start + 1))
      show (ofNat b.toNat).isTruthy = (ofNat c.toNat).isTruthy
      rw [isTruthy_byte, isTruthy_byte, hhead]

/-- A scalar has no elements. -/
theorem pairs?_of_isScalar {v : Value} (h : v.isScalar = true) : v.pairs? = none := by
  cases v with
  | bool b => rfl
  | number n => rfl
  | string s => rfl
  | _ => cases h

/-- Similar values have similar elements. -/
theorem pairs? {v w : Value} (h : Similar v w) : Option.Rel Pairs v.pairs? w.pairs? := by
  refine content_induction (P := fun v w => Option.Rel Pairs v.pairs? w.pairs?) (fun _ _ ih => ih) ?_ h
  intro v w h hv
  cases h with
  | list h => exact Option.Rel.some (pairs_of_list h 0)
  | bytes h => exact Option.Rel.some (pairs_of_bytes h 0)
  | map hkeys h =>
    refine Option.Rel.some ((forall₂_entries hkeys h).imp fun p q hpq => ⟨?_, hpq.2⟩)
    rw [hpq.1]
    exact refl _
  | optional h => exact absurd rfl (hv _)
  | scalar hv hw h =>
    rw [pairs?_of_isScalar hv, pairs?_of_isScalar hw]
    exact Option.Rel.none
  | _ => exact Option.Rel.none

end Similar

end Value

end QueryTemplate
