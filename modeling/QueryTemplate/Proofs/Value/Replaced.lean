import QueryTemplate.Proofs.Outcome
import QueryTemplate.Render.Static

/-!
# Values beside others

A relation between values that names keep is kept by paths (`Value.rel_lookup?`). A function on values may go along with
names and with binding: what a name leads to is replaced by the function, and so is what is bound (`Value.IsReplacement`).
Then it goes along with paths, and a template without blocks is rendered from the replacement of a value with the
replacements of its arguments (`StaticTemplate.render_replaced`).
-/

namespace QueryTemplate

namespace Value

/-- From related values a path leads to related values, or from neither to any. -/
theorem rel_lookup? {R : Value → Value → Prop}
    (hget : ∀ {v w}, R v w → ∀ name, Option.Rel R (v.get? name) (w.get? name)) {v w : Value} (h : R v w)
    (path : List String) : Option.Rel R (v.lookup? path) (w.lookup? path) := by
  induction path generalizing v w with
  | nil => exact Option.Rel.some h
  | cons name path ih => exact rel_bind (hget h name) fun _ _ h => ih h

/-- What a name leads to is replaced as the value is, and so is what is bound for the value. -/
structure IsReplacement (f : Value → Value) : Prop where
  null : f .null = .null
  get? : ∀ (v : Value) (name : String), (f v).get? name = (v.get? name).map f
  toArgument : ∀ v : Value, (f v).toArgument = v.toArgument.map f

namespace IsReplacement

variable {f : Value → Value}

/-- A path leads to the replacement of what it leads to. -/
theorem lookup? (hf : IsReplacement f) (path : List String) (v : Value) :
    (f v).lookup? path = (v.lookup? path).map f := by
  induction path generalizing v with
  | nil => rfl
  | cons name path ih =>
    rw [Value.lookup?, Value.lookup?, hf.get?]
    cases v.get? name with
    | none => rfl
    | some w => exact ih w

theorem extract (hf : IsReplacement f) (policy : MissingValue) (reference : String) (v : Option Value) :
    Value.extract policy reference (v.map f) = (Value.extract policy reference v).map f := by
  cases v with
  | some v => exact hf.toArgument v
  | none =>
    cases policy with
    | null => exact congrArg Except.ok hf.null.symm
    | error => rfl

end IsReplacement

end Value

/-- The query with other arguments. -/
def Rendered.mapArguments (f : Value → Value) (r : Rendered) : Rendered :=
  ⟨r.query, r.arguments.map f⟩

namespace StaticTemplate

variable {f : Value → Value}

theorem arguments_replaced (hf : Value.IsReplacement f) (policy : MissingValue) (v : Value)
    (paths : List (List String)) :
    arguments policy (f v) paths = (arguments policy v paths).map (List.map f) := by
  induction paths with
  | nil => rfl
  | cons path paths ih =>
    rw [arguments, arguments, hf.lookup?, hf.extract, ih]
    cases Value.extract policy (describe path) (v.lookup? path) with
    | error e => rfl
    | ok argument => cases arguments policy v paths <;> rfl

/-- A template is rendered from the replacement of a value with the replacements of its arguments. -/
theorem render_replaced (hf : Value.IsReplacement f) (t : StaticTemplate) (options : Options) (v : Value) :
    t.render options (f v) = (t.render options v).map (Rendered.mapArguments f) := by
  rw [render, render, arguments_replaced hf]
  cases arguments options.missingValue v t.paths <;> rfl

end StaticTemplate

end QueryTemplate
