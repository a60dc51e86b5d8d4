import QueryTemplate.Proofs.Render.Sequence
import QueryTemplate.Render.Static

/-!
# Templates without blocks, compiled and walked

A list of nodes that compiles may be rendered from its compiled form or walked for each value. Both ways come to the same
from every value (`StaticTemplate.compile_alike`), since each node renders like the part that it becomes.
-/

namespace QueryTemplate

/-- Errors of one variant, which for a failed conversion have the same message too. -/
def Error.SameCause (e e' : Error) : Prop :=
  e.variant = e'.variant ∧ ∀ message, e = .conversion message → e' = .conversion message

theorem Error.SameCause.refl (e : Error) : e.SameCause e :=
  ⟨rfl, fun _ h => h⟩

namespace StaticTemplate

/-! ## Compiled templates part by part -/

/-- The arguments at the paths of two lists are those of the one and then those of the other. -/
theorem arguments_append (policy : MissingValue) (v : Value) (ps qs : List (List String)) :
    arguments policy v (ps ++ qs) = do
      let first ← arguments policy v ps
      return first ++ (← arguments policy v qs) := by
  induction ps with
  | nil =>
    show arguments policy v qs = do return [] ++ (← arguments policy v qs)
    cases arguments policy v qs <;> rfl
  | cons p ps ih =>
    simp only [List.cons_append, arguments, ih]
    cases Value.extract policy (describe p) (v.lookup? p) with
    | error e => rfl
    | ok argument =>
      cases arguments policy v ps with
      | error e => rfl
      | ok first => cases arguments policy v qs <;> rfl

/-- A template in two parts is rendered part by part. -/
theorem render_append (a b : StaticTemplate) (options : Options) (v : Value) :
    (a ++ b).render options v = do
      let first ← a.render options v
      return first ++ (← b.render options v) := by
  show (do return (⟨a.query ++ b.query, ← arguments options.missingValue v (a.paths ++ b.paths)⟩ : Rendered)) = _
  rw [arguments_append, render, render]
  cases arguments options.missingValue v a.paths with
  | error e => rfl
  | ok first => cases arguments options.missingValue v b.paths <;> rfl

/-- A placeholder is rendered with the argument at its path. -/
theorem render_reference (path : List String) (options : Options) (v : Value) :
    (StaticTemplate.mk placeholder [path]).render options v = do
      return .ofArgument (← Value.extract options.missingValue (describe path) (v.lookup? path)) := by
  rw [render, arguments, arguments]
  cases Value.extract options.missingValue (describe path) (v.lookup? path) <;> rfl

/-! ## One operand -/

/-- The root of the walk is the parameter. -/
theorem get?_root_initial (v : Value) : (Env.initial v).get? rootName = some v := rfl

/-- An operand with a path stands for what the path leads to. -/
theorem eval_of_pathOf {operand : Operand} {path : List String} (h : pathOf operand = .ok path) (v : Value) :
    (Env.initial v).eval operand = .ok (v.lookup? path) := by
  unfold pathOf at h
  split at h
  · cases h; rfl
  · cases h; rfl
  · split at h
    · rename_i hroot
      cases h
      rw [hroot, Env.eval, get?_root_initial]
      rfl
    · cases h
  · cases h

/-- What is extracted does not depend on the text of the reference, but for the error of a missing value. -/
theorem extract_alike (policy : MissingValue) (reference reference' : String) (v : Option Value) :
    Alike Error.SameCause Eq (Value.extract policy reference v) (Value.extract policy reference' v) := by
  cases v with
  | some v => exact Alike.refl Error.SameCause.refl (fun _ => rfl) _
  | none =>
    cases policy with
    | null => exact Alike.ok rfl
    | error => exact Alike.error ⟨rfl, fun _ h => nomatch h⟩

/-! ## One node -/

/-- The part that a node becomes renders like the node. -/
theorem ofNode_alike {node : Node} {part : StaticTemplate} (h : ofNode node = .ok part) (options : Options) (v : Value) :
    Alike Error.SameCause Eq (part.render options v)
      (DynamicTemplate.renderNode options.missingValue (.initial v) node) := by
  cases node with
  | text s => cases h; exact Alike.ok rfl
  | comment s => cases h; exact Alike.ok rfl
  | action pipeline =>
    obtain ⟨operand, hoperand, h⟩ := bind_eq_ok.mp h
    rw [DynamicTemplate.renderNode]
    rw [ofOperand] at h
    split at h
    · rename_i text htext
      cases h
      rw [DynamicTemplate.renderAction_of_literal hoperand htext]
      exact Alike.ok rfl
    · rename_i htext
      obtain ⟨path, hpath, h⟩ := bind_eq_ok.mp h
      cases h
      rw [DynamicTemplate.renderAction_of_reference hoperand htext (eval_of_pathOf hpath v), render_reference]
      exact (extract_alike _ _ _ _).bind fun a b hab => Alike.ok (congrArg Rendered.ofArgument hab)
  | _ => cases h

/-- A list that compiles renders like its nodes. -/
theorem compile_alike {nodes : List Node} {t : StaticTemplate} (h : compile nodes = .ok t) (options : Options)
    (v : Value) : Alike Error.SameCause Eq (t.render options v) (DynamicTemplate.render nodes options v) := by
  induction nodes generalizing t with
  | nil =>
    cases h
    rw [DynamicTemplate.render, DynamicTemplate.renderNodes]
    exact Alike.ok rfl
  | cons node nodes ih =>
    obtain ⟨part, hpart, h⟩ := bind_eq_ok.mp h
    obtain ⟨rest, hrest, h⟩ := bind_eq_ok.mp h
    cases h
    rw [render_append, DynamicTemplate.render, DynamicTemplate.renderNodes]
    refine (ofNode_alike hpart options v).bind fun a b hab => ?_
    refine (ih hrest).bind fun c d hcd => ?_
    exact Alike.ok (by rw [hab, hcd])

end StaticTemplate

end QueryTemplate
