import QueryTemplate.Proofs.Render.Placeholders
import QueryTemplate.Proofs.Render.Pruned
import QueryTemplate.Proofs.Value.Blanked

/-!
# What is bound although it cannot be

A conversion that has failed is reported when its value is bound, but only the value itself is looked at, below optional
values. In a list, a map or a record that is bound it goes unnoticed (`Template.reports_unbindable`).
-/

namespace QueryTemplate

namespace Value

/-- Something in a value cannot be bound, but the value itself, below optional values, can. -/
def Hides (v : Value) : Prop :=
  (∃ message, Part (.unbindable message) v) ∧ ∀ message, v.peel ≠ .unbindable message

/-- What cannot be bound in a value cannot be bound in its content. -/
theorem part_unbindable_peel {v : Value} {message : String} :
    Part (.unbindable message) v.peel ↔ Part (.unbindable message) v := by
  refine ⟨fun h => h.trans v.part_peel, fun h => ?_⟩
  induction v using peel.induct with
  | case1 inner ih =>
    cases h with
    | content h => exact ih h
  | case2 v hv =>
    rw [peel.eq_2 v hv]
    exact h

/-- A value is bound as its content, unless this cannot be bound. -/
theorem toArgument_eq_ok {v a : Value} :
    v.toArgument = .ok a ↔ a = v.peel ∧ ∀ message, v.peel ≠ .unbindable message := by
  rw [toArgument]
  cases hv : v.peel with
  | unbindable message => simp
  | _ => simp [eq_comm]

/-- What is extracted is the argument for a value that is there, or null. -/
theorem extract_eq_ok {policy : MissingValue} {reference : String} {x : Option Value} {a : Value}
    (h : extract policy reference x = .ok a) : (∃ w, x = some w ∧ w.toArgument = .ok a) ∨ a = .null := by
  cases x with
  | some w => exact Or.inl ⟨w, rfl, h⟩
  | none =>
    cases policy with
    | null => cases h; exact Or.inr rfl
    | error => cases h

end Value

/-- The arguments of a compiled template are extracted at its paths, one for one. -/
theorem StaticTemplate.forall₂_of_arguments {policy : MissingValue} {v : Value} {paths : List (List String)}
    {bound : List Value} (h : arguments policy v paths = .ok bound) :
    List.Forall₂ (fun path a => Value.extract policy (describe path) (v.lookup? path) = .ok a) paths bound := by
  induction paths generalizing bound with
  | nil => cases h; exact List.Forall₂.nil
  | cons path paths ih =>
    obtain ⟨a, ha, h⟩ := bind_eq_ok.mp h
    obtain ⟨rest, hrest, h⟩ := bind_eq_ok.mp h
    cases h
    exact List.Forall₂.cons ha (ih hrest)

namespace Compiled

/-- A reference that is bound leads to a value, when the template is rendered from another. -/
def Reaches (c : Compiled) (v w : Value) : Prop :=
  match c with
  | .static template => ∃ path ∈ template.paths, v.lookup? path = some w
  | .dynamic nodes => ∃ env operand, Step.reference env operand ∈ DynamicTemplate.steps (.initial v) nodes ∧
      env.eval operand = .ok (some w)

/-- What a reference leads to is bound. -/
theorem mem_arguments_of_reaches {c : Compiled} {options : Options} {v w : Value} {r : Rendered}
    (h : c.render options v = .ok r) (hw : c.Reaches v w) : ∃ a ∈ r.arguments, w.toArgument = .ok a := by
  cases c with
  | static template =>
    obtain ⟨path, hpath, hlookup⟩ := hw
    have hall := StaticTemplate.forall₂_of_arguments (StaticTemplate.arguments_of_render h)
    obtain ⟨a, ha, hextract⟩ := forall₂_exists_of_mem hall hpath
    rw [hlookup] at hextract
    exact ⟨a, ha, hextract⟩
  | dynamic nodes =>
    obtain ⟨env, operand, hstep, heval⟩ := hw
    obtain ⟨haligned, -⟩ := DynamicTemplate.aligned_of_render h
    have hbound : (env, operand) ∈ (DynamicTemplate.steps (.initial v) nodes).filterMap Step.bound? :=
      List.mem_filterMap.mpr ⟨_, hstep, rfl⟩
    obtain ⟨a, ha, x, hx, hextract⟩ := forall₂_exists_of_mem haligned.arguments hbound
    rw [heval] at hx
    cases hx
    exact ⟨a, ha, hextract⟩

/-- What is bound is what a reference leads to, or null for what is missing. -/
theorem reaches_of_mem_arguments {c : Compiled} {options : Options} {v a : Value} {r : Rendered}
    (h : c.render options v = .ok r) (ha : a ∈ r.arguments) :
    (∃ w, c.Reaches v w ∧ w.toArgument = .ok a) ∨ a = .null := by
  cases c with
  | static template =>
    have hall := StaticTemplate.forall₂_of_arguments (StaticTemplate.arguments_of_render h)
    obtain ⟨path, hpath, hextract⟩ := forall₂_exists_of_mem hall.flip ha
    rcases Value.extract_eq_ok hextract with ⟨w, hw, hargument⟩ | hnull
    · exact Or.inl ⟨w, ⟨path, hpath, hw⟩, hargument⟩
    · exact Or.inr hnull
  | dynamic nodes =>
    obtain ⟨haligned, -⟩ := DynamicTemplate.aligned_of_render h
    obtain ⟨⟨env, operand⟩, hbound, x, hx, hextract⟩ := forall₂_exists_of_mem haligned.arguments.flip ha
    obtain ⟨step, hstep, hsome⟩ := List.mem_filterMap.mp hbound
    cases step with
    | reference env' operand' =>
      cases hsome
      rcases Value.extract_eq_ok hextract with ⟨w, rfl, hargument⟩ | hnull
      · exact Or.inl ⟨w, ⟨env, operand, hstep, hx⟩, hargument⟩
      · exact Or.inr hnull
    | _ => cases hsome

end Compiled

namespace Template

/-- A conversion that has failed is reported when its value is bound itself: where a template is rendered, no reference
leads to such a value, and no argument is one, below optional values or not. In a list, a map or a record that is bound
it is not: an argument has a part that cannot be bound exactly when a reference leads to a value that hides one. -/
theorem reports_unbindable {t : Template} {p : Parameter} {r : Rendered} (h : t.render p = .ok r) :
    (∀ v w, t.compiled.convert p = .ok v → t.compiled.Reaches v w → ∀ message, w.peel ≠ .unbindable message) ∧
      (∀ a ∈ r.arguments, ∀ message, a.peel ≠ .unbindable message) ∧
      ((∃ a ∈ r.arguments, ∃ message, Value.Part (.unbindable message) a) ↔
        ∃ v w, t.compiled.convert p = .ok v ∧ t.compiled.Reaches v w ∧ w.Hides) := by
  obtain ⟨v, hv, hrender⟩ := bind_eq_ok.mp h
  have hreaches : ∀ w, t.compiled.Reaches v w → w.peel ∈ r.arguments ∧ ∀ message, w.peel ≠ .unbindable message := by
    intro w hw
    obtain ⟨a, ha, hargument⟩ := Compiled.mem_arguments_of_reaches hrender hw
    obtain ⟨rfl, hbindable⟩ := Value.toArgument_eq_ok.mp hargument
    exact ⟨ha, hbindable⟩
  refine ⟨fun v' w hv' hw => ?_, fun a ha message => ?_, fun ⟨a, ha, message, hpart⟩ => ?_,
    fun ⟨v', w, hv', hw, hhides⟩ => ?_⟩
  · rw [hv] at hv'
    cases hv'
    exact (hreaches w hw).2
  · rcases Compiled.reaches_of_mem_arguments hrender ha with ⟨w, -, hargument⟩ | rfl
    · obtain ⟨rfl, hbindable⟩ := Value.toArgument_eq_ok.mp hargument
      rw [Value.peel_peel]
      exact hbindable message
    · exact nofun
  · rcases Compiled.reaches_of_mem_arguments hrender ha with ⟨w, hw, hargument⟩ | rfl
    · obtain ⟨rfl, hbindable⟩ := Value.toArgument_eq_ok.mp hargument
      exact ⟨v, w, hv, hw, ⟨message, Value.part_unbindable_peel.mp hpart⟩, hbindable⟩
    · -- null for what is missing has no parts
      cases hpart
  · rw [hv] at hv'
    cases hv'
    obtain ⟨message, hpart⟩ := hhides.1
    exact ⟨w.peel, (hreaches w hw).1, message, Value.part_unbindable_peel.mpr hpart⟩

/-- A list of which the second element cannot be bound is bound. -/
theorem reports_unbindable_list :
    (Template.mk (.static ⟨"?", [["Ids"]]⟩) .default).render
        (.record [("Ids", .optional (.list [.integer (.narrow (.i64 1)), .unbindable (.string "bad")]))]) =
      .ok ⟨"?", [.list [.ofNat 1, .unbindable "bad"]]⟩ ∧
    ∃ a ∈ [Value.list [.ofNat 1, .unbindable "bad"]], ∃ message, Value.Part (.unbindable message) a := by
  have hrender : (Template.mk (.static ⟨"?", [["Ids"]]⟩) .default).render
      (.record [("Ids", .optional (.list [.integer (.narrow (.i64 1)), .unbindable (.string "bad")]))]) =
      .ok ⟨"?", [.list [.ofNat 1, .unbindable "bad"]]⟩ := rfl
  refine ⟨hrender, (reports_unbindable hrender).2.2.mpr
    ⟨_, .optional (.list [.ofNat 1, .unbindable "bad"]), rfl, ?_, ?_, nofun⟩⟩
  · exact ⟨["Ids"], List.mem_singleton_self _, rfl⟩
  · exact ⟨"bad", .content (.item (List.mem_cons_of_mem _ List.mem_cons_self) (.itself _))⟩

/-- There are templates and parameters with arguments that hold what cannot be bound. -/
theorem not_reports_unbindable :
    ¬∀ (source : String) (options : Options) (t : Template) (p : Parameter) (r : Rendered), build source options = .ok t →
      t.render p = .ok r → ∀ a ∈ r.arguments, ∀ message, ¬Value.Part (.unbindable message) a := by
  intro h
  have hlist := h "{{.}}" .default ⟨.static ⟨"?", [[]]⟩, .default⟩ (.list [.unbindable (.string "bad")])
    ⟨"?", [.list [.unbindable "bad"]]⟩ (by decide +kernel) rfl _ (List.mem_singleton_self _) "bad"
  exact hlist (.item (List.mem_singleton_self _) (.itself _))

end Template

end QueryTemplate
