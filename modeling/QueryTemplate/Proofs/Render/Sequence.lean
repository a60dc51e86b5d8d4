import QueryTemplate.Proofs.Outcome
import QueryTemplate.Render.Dynamic

/-!
# Renderings in sequence

Nodes are rendered one after the other up to the first failure, so a list in two parts is rendered part by part
(`renderNodes_append`), and the first member that fails decides how the list fails (`concat_eq_error_iff`).
-/

namespace QueryTemplate

namespace DynamicTemplate

/-- Something rendered alone. -/
@[simp] theorem concat_singleton {α : Type} (render : α → Except Error Rendered) (a : α) :
    concat render [a] = render a := by
  simp only [concat]
  cases render a with
  | ok r => exact congrArg Except.ok (Rendered.append_empty r)
  | error e => rfl

/-- What stands in two parts is rendered part by part. -/
theorem concat_append {α : Type} (render : α → Except Error Rendered) (xs ys : List α) :
    concat render (xs ++ ys) = do
      let first ← concat render xs
      return first ++ (← concat render ys) := by
  induction xs with
  | nil =>
    show concat render ys = do return .empty ++ (← concat render ys)
    cases concat render ys with
    | ok r => exact congrArg Except.ok (Rendered.empty_append r).symm
    | error e => rfl
  | cons x xs ih =>
    simp only [List.cons_append, concat, ih]
    cases render x with
    | error e => rfl
    | ok r =>
      cases concat render xs with
      | error e => rfl
      | ok s =>
        cases concat render ys with
        | error e => rfl
        | ok t => exact congrArg Except.ok (Rendered.append_assoc r s t).symm

/-- Renderings in sequence fail exactly when one of them does after all before it have succeeded, and then with its
error. -/
theorem concat_eq_error_iff {α : Type} (render : α → Except Error Rendered) (xs : List α) (e : Error) :
    concat render xs = .error e ↔
      ∃ front x rest, xs = front ++ x :: rest ∧ (∃ r, concat render front = .ok r) ∧ render x = .error e := by
  constructor
  · intro h
    induction xs with
    | nil => cases h
    | cons x xs ih =>
      rcases bind_eq_error.mp h with hx | ⟨first, hfirst, h⟩
      · exact ⟨[], x, xs, rfl, ⟨_, rfl⟩, hx⟩
      · rcases bind_eq_error.mp h with hxs | ⟨_, _, h⟩
        · obtain ⟨front, y, rest, rfl, ⟨r, hr⟩, hy⟩ := ih hxs
          exact ⟨x :: front, y, rest, rfl, ⟨_, bind_eq_ok.mpr ⟨_, hfirst, bind_eq_ok.mpr ⟨_, hr, rfl⟩⟩⟩, hy⟩
        · cases h
  · rintro ⟨front, x, rest, rfl, ⟨r, hr⟩, hx⟩
    rw [concat_append, hr]
    exact bind_eq_error.mpr (Or.inr ⟨r, rfl, bind_eq_error.mpr (Or.inl (bind_eq_error.mpr (Or.inl hx)))⟩)

/-- Where renderings in sequence succeed, each of them does. -/
theorem exists_ok_of_concat {α : Type} {render : α → Except Error Rendered} {xs : List α} {r : Rendered}
    (h : concat render xs = .ok r) : ∀ x ∈ xs, ∃ s, render x = .ok s := by
  induction xs generalizing r with
  | nil => simp
  | cons first xs ih =>
    obtain ⟨s, hs, h⟩ := bind_eq_ok.mp h
    obtain ⟨t, ht, _⟩ := bind_eq_ok.mp h
    intro x hx
    rcases List.mem_cons.mp hx with rfl | hx
    · exact ⟨s, hs⟩
    · exact ih ht x hx

/-! ## Actions and lists -/

/-- An action with a literal gives the text of the literal. -/
theorem renderAction_of_literal {pipeline : Pipeline} {operand : Operand} {text : String}
    (hoperand : Pipeline.outputOperand pipeline = .ok operand) (htext : operand.literalText? = some text)
    (policy : MissingValue) (env : Env) : renderAction policy env pipeline = .ok (.ofText text) := by
  simp only [renderAction, hoperand, ok_bind, htext]
  rfl

/-- An action with any other operand gives a placeholder, and as its argument what is extracted for the operand. -/
theorem renderAction_of_reference {pipeline : Pipeline} {operand : Operand} {env : Env} {v : Option Value}
    (hoperand : Pipeline.outputOperand pipeline = .ok operand) (htext : operand.literalText? = none)
    (hv : env.eval operand = .ok v) (policy : MissingValue) :
    renderAction policy env pipeline = do return .ofArgument (← Value.extract policy operand.text v) := by
  simp only [renderAction, hoperand, ok_bind, htext, hv]

/-- A list is rendered by rendering its nodes in sequence. -/
theorem renderNodes_eq_concat (policy : MissingValue) (env : Env) (nodes : List Node) :
    renderNodes policy env nodes = concat (renderNode policy env) nodes := by
  induction nodes with
  | nil => rw [renderNodes]; rfl
  | cons node nodes ih => rw [renderNodes, ih]; rfl

/-- A list in two parts is rendered part by part. -/
theorem renderNodes_append (policy : MissingValue) (env : Env) (xs ys : List Node) :
    renderNodes policy env (xs ++ ys) = do
      let first ← renderNodes policy env xs
      return first ++ (← renderNodes policy env ys) := by
  simp only [renderNodes_eq_concat]
  exact concat_append _ xs ys

end DynamicTemplate

end QueryTemplate
