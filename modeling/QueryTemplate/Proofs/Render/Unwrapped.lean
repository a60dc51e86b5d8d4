import QueryTemplate.Proofs.Render.Exposed
import QueryTemplate.Proofs.Render.Paired
import QueryTemplate.Proofs.Value.Unwrapped

/-!
# Rendering without optional layers

Two values may differ in nothing but optional layers: they are one value without these, or values that are equal. From both
a template without blocks is rendered to one query, with arguments that differ as little, and none of the arguments is
optional (`StaticTemplate.optional_layers_are_transparent`).
-/

namespace QueryTemplate

namespace Value

/-- A relation that names and binding keep, with what is bound instead of a missing value in it. -/
structure IsComparison (E : Value → Value → Prop) : Prop where
  null : E .null .null
  get? : ∀ {v w}, E v w → ∀ name, Option.Rel E (v.get? name) (w.get? name)
  toArgument : ∀ {v w}, E v w → Alike Eq E v.toArgument w.toArgument

namespace IsComparison

variable {E : Value → Value → Prop}

theorem lookup? (hE : IsComparison E) {v w : Value} (h : E v w) (path : List String) :
    Option.Rel E (v.lookup? path) (w.lookup? path) :=
  rel_lookup? hE.get? h path

theorem extract (hE : IsComparison E) (policy : MissingValue) (reference : String) {x y : Option Value}
    (h : Option.Rel E x y) : Alike Eq E (Value.extract policy reference x) (Value.extract policy reference y) := by
  cases h with
  | some h => exact hE.toArgument h
  | none =>
    cases policy with
    | null => exact Alike.ok hE.null
    | error => exact Alike.error rfl

/-- Values that are the same can be compared. -/
theorem eq : IsComparison Eq where
  null := rfl
  get? := by
    rintro v _ rfl name
    cases v.get? name with
    | none => exact Option.Rel.none
    | some w => exact Option.Rel.some rfl
  toArgument := by
    rintro v _ rfl
    exact Alike.refl (fun _ => rfl) (fun _ => rfl) v.toArgument

end IsComparison

/-! ## Equal values -/

/-- Equal values have as many outer layers, around equal contents. -/
theorem equals_peel {v w : Value} (h : v.equals w = true) : v.peel.equals w.peel = true := by
  induction v using peel.induct generalizing w with
  | case1 inner ih =>
    cases w with
    | optional inner' =>
      have hinner : inner.equals inner' = true := h
      have hpeel : inner.peel.equals inner'.peel = true := ih hinner
      exact hpeel
    | _ => cases h
  | case2 v hv =>
    cases w with
    | optional inner =>
      cases v with
      | optional v => exact absurd rfl (hv v)
      | _ => cases h
    | _ => rw [peel.eq_2 v hv]; exact h

theorem equals_string_iff {v : Value} {s : String} : v.equals (.string s) = true ↔ v = .string s := by
  cases v <;> simp [equals]

theorem string_equals_iff {v : Value} {s : String} : (string s).equals v = true ↔ v = .string s := by
  cases v with
  | string s' =>
    rw [equals, beq_iff_eq, string.injEq]
    exact eq_comm
  | _ => simp [equals]

/-- An entry counts when its key equals the name. -/
theorem entry?_cons (name : String) (key v : Value) (entries : List (Value × Value)) :
    entry? name ((key, v) :: entries) = if key.equals (.string name) then some v else entry? name entries := by
  cases key with
  | string key => simp only [equals, entry?, beq_iff_eq]
  | _ => rfl

/-- Entries of one key among equal entries are equal. -/
theorem entry?_of_equalEntries {as bs : List (Value × Value)} (h : equalEntries as bs = true) (name : String) :
    Option.Rel (fun v w => v.equals w = true) (Value.entry? name as) (Value.entry? name bs) := by
  induction as generalizing bs with
  | nil =>
    cases bs with
    | nil => exact Option.Rel.none
    | cons b bs => cases h
  | cons a as ih =>
    obtain ⟨key, v⟩ := a
    cases bs with
    | nil => cases h
    | cons b bs =>
      obtain ⟨key', w⟩ := b
      rw [equalEntries, Bool.and_eq_true, Bool.and_eq_true] at h
      obtain ⟨⟨hkey, hvalue⟩, hrest⟩ := h
      have hname : key.equals (.string name) = key'.equals (.string name) := by
        rw [Bool.eq_iff_iff, equals_string_iff, equals_string_iff]
        constructor
        · rintro rfl
          exact string_equals_iff.mp hkey
        · rintro rfl
          exact equals_string_iff.mp hkey
      rw [entry?_cons, entry?_cons, hname]
      split
      · exact Option.Rel.some hvalue
      · exact ih hrest

/-- Fields of one name among equal fields are equal. -/
theorem field?_of_equalFields {as bs : List (String × Value)} (h : equalFields as bs = true) (name : String) :
    Option.Rel (fun v w => v.equals w = true) (field? name as) (field? name bs) := by
  induction as generalizing bs with
  | nil =>
    cases bs with
    | nil => exact Option.Rel.none
    | cons b bs => cases h
  | cons a as ih =>
    obtain ⟨key, v⟩ := a
    cases bs with
    | nil => cases h
    | cons b bs =>
      obtain ⟨key', w⟩ := b
      rw [equalFields, Bool.and_eq_true, Bool.and_eq_true] at h
      obtain ⟨⟨hkey, hvalue⟩, hrest⟩ := h
      obtain rfl : key = key' := beq_iff_eq.mp hkey
      simp only [field?]
      split
      · exact Option.Rel.some hvalue
      · exact ih hrest

/-- Equal values can be compared, although a value need not equal itself. -/
theorem IsComparison.equals : IsComparison fun v w => v.equals w = true where
  null := rfl
  get? := by
    intro v w h name
    have hpeel := equals_peel h
    rw [Value.get?, Value.get?]
    generalize v.peel = v, w.peel = w at hpeel
    revert hpeel
    fun_cases Value.equals v w with
    | case7 as bs => exact fun hpeel => entry?_of_equalEntries hpeel name
    | case8 as bs => exact fun hpeel => field?_of_equalFields hpeel name
    | case11 => exact fun hpeel => absurd hpeel Bool.false_ne_true
    | _ => exact fun _ => Option.Rel.none
  toArgument := by
    intro v w h
    have hpeel := equals_peel h
    rw [Value.toArgument, Value.toArgument]
    generalize v.peel = v, w.peel = w at hpeel
    revert hpeel
    fun_cases Value.equals v w with
    | case10 message message' =>
      intro hpeel
      exact Alike.error (congrArg Error.conversion (beq_iff_eq.mp hpeel))
    | case11 => exact fun hpeel => absurd hpeel Bool.false_ne_true
    | _ => exact fun hpeel => Alike.ok hpeel

end Value

/-! ## Templates without blocks -/

namespace StaticTemplate

variable {E : Value → Value → Prop}

/-- From values that compare, a template is rendered to queries whose arguments compare. -/
theorem render_compared (hE : Value.IsComparison E) (t : StaticTemplate) (options : Options) {v w : Value} (h : E v w) :
    Alike Eq (Rendered.Paired E) (t.render options v) (t.render options w) := by
  have hextract : ∀ path reference, Follows (fun _ => False) E
      (Value.extract options.missingValue reference (v.lookup? path))
      (Value.extract options.missingValue reference (w.lookup? path)) :=
    fun path reference => (hE.extract options.missingValue reference (hE.lookup? h path)).follows
  exact (arguments_follow hextract t.paths).alike.bind fun _ _ hargs => Alike.ok ⟨rfl, hargs⟩

/-- Values may compare only without their optional layers, and then the arguments do. -/
theorem render_unwrapped (hE : Value.IsComparison E) (t : StaticTemplate) (options : Options) {v w : Value}
    (h : E v.unwrapped w.unwrapped) :
    Alike Eq (Rendered.Paired fun a b => E a.unwrapped b.unwrapped) (t.render options v) (t.render options w) := by
  have hrender := render_compared hE t options h
  rw [render_replaced Value.isReplacement_unwrapped, render_replaced Value.isReplacement_unwrapped] at hrender
  generalize t.render options v = x, t.render options w = y at hrender
  cases x <;> cases y <;> cases hrender
  case error.error e e' he => exact Alike.error he
  case ok.ok r s hrs =>
    have hargs : List.Forall₂ E (r.arguments.map Value.unwrapped) (s.arguments.map Value.unwrapped) := hrs.arguments
    rw [List.forall₂_map_left_iff, List.forall₂_map_right_iff] at hargs
    exact Alike.ok ⟨hrs.query, hargs⟩

/-- What is bound is not optional. -/
theorem not_optional_of_render {t : StaticTemplate} {options : Options} {v : Value} {r : Rendered}
    (h : t.render options v = .ok r) {a : Value} (ha : a ∈ r.arguments) (inner : Value) : a ≠ .optional inner := by
  rcases Compiled.reaches_of_mem_arguments (c := .static t) h ha with ⟨w, -, hw⟩ | rfl
  · obtain ⟨rfl, -⟩ := Value.toArgument_eq_ok.mp hw
    exact w.peel_ne_optional inner
  · exact nofun

end StaticTemplate

/-! ## The main result -/

/-- Optional layers are not seen by a template without blocks, wherever they are in a value but in keys. Two values that are
the same without these layers give one query, with arguments that are the same without them, or one error; and values that
are equal without these layers give arguments that are equal without them. No argument is itself optional. -/
theorem StaticTemplate.optional_layers_are_transparent (t : StaticTemplate) (options : Options) :
    (∀ v w : Value, v.unwrapped = w.unwrapped →
      Alike Eq (Rendered.Paired fun a b => a.unwrapped = b.unwrapped) (t.render options v) (t.render options w)) ∧
    (∀ v w : Value, v.unwrapped.equals w.unwrapped = true →
      Alike Eq (Rendered.Paired fun a b => a.unwrapped.equals b.unwrapped = true) (t.render options v)
        (t.render options w)) ∧
    ∀ v r, t.render options v = .ok r → ∀ a ∈ r.arguments, ∀ inner, a ≠ .optional inner :=
  ⟨fun _ _ h => render_unwrapped .eq t options h, fun _ _ h => render_unwrapped .equals t options h,
    fun _ _ h _ ha => not_optional_of_render h ha⟩

/-- Layers around the parameter, along the path and within the argument; and two zeros with a layer around one of them. -/
theorem StaticTemplate.optional_layers_are_transparent_nested :
    (StaticTemplate.mk "?" [["A", "b"]]).render ⟨.error⟩
        (.optional (.record [("A", .optional (.optional (.map [(.string "b", .optional (.list [.optional .null]))])))])) =
      .ok ⟨"?", [.list [.optional .null]]⟩ ∧
    (∀ inner, Value.list [.optional .null] ≠ .optional inner) ∧
    Alike Eq (Rendered.Paired fun a b => a.unwrapped = b.unwrapped)
      ((StaticTemplate.mk "?" [["A", "b"]]).render ⟨.error⟩
        (.optional (.record [("A", .optional (.optional (.map [(.string "b", .optional (.list [.optional .null]))])))])))
      ((StaticTemplate.mk "?" [["A", "b"]]).render ⟨.error⟩
        (.record [("A", .map [(.string "b", .list [.null])])])) ∧
    Alike Eq (Rendered.Paired fun a b => a.unwrapped.equals b.unwrapped = true)
      ((StaticTemplate.mk "?" [[]]).render ⟨.error⟩ (.optional (.number (.float ⟨0⟩))))
      ((StaticTemplate.mk "?" [[]]).render ⟨.error⟩ (.number (.float ⟨0x8000000000000000⟩))) := by
  have hnested := StaticTemplate.optional_layers_are_transparent ⟨"?", [["A", "b"]]⟩ ⟨.error⟩
  have hzeros := StaticTemplate.optional_layers_are_transparent ⟨"?", [[]]⟩ ⟨.error⟩
  have hrender : (StaticTemplate.mk "?" [["A", "b"]]).render ⟨.error⟩
      (.optional (.record [("A", .optional (.optional (.map [(.string "b", .optional (.list [.optional .null]))])))])) =
      .ok ⟨"?", [.list [.optional .null]]⟩ := rfl
  refine ⟨hrender, hnested.2.2 _ _ hrender _ (List.mem_singleton_self _), hnested.1 _ _ rfl, hzeros.2.1 _ _ ?_⟩
  decide

end QueryTemplate
