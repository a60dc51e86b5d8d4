import QueryTemplate.Proofs.Render.Sequence
import QueryTemplate.Syntax.Outline
import QueryTemplate.Template

/-!
# The walk of a template

The nodes that the walk of a template comes to, each with its environment (`DynamicTemplate.visits`): those of the branch
that a condition takes, those of the body of a loop once for each element. Rendering a template is rendering its visits
in sequence (`renderNodes_eq_concat_visits`), which turns a statement about the recursion over blocks into one about a
list.
-/

namespace QueryTemplate

/-- A node that the walk comes to, and the environment in which it does. -/
structure Visit where
  env : Env
  node : Node

namespace DynamicTemplate

mutual

/-- The visits of a node: the node itself, and if it is a block those of the lists that are rendered for it. -/
def visits (env : Env) : Node → List Visit
  | .block .cond pipeline body otherwise =>
    ⟨env, .block .cond pipeline body otherwise⟩ ::
      match blockValue env pipeline with
      | .ok v =>
        if holds v then visitsAll (env.bindCond pipeline.targets v) body else visitsAll env otherwise
      | .error _ => []
  | .block .loop pipeline body otherwise =>
    ⟨env, .block .loop pipeline body otherwise⟩ ::
      match blockValue env pipeline >>= elements with
      | .ok pairs =>
        if pairs.isEmpty then visitsAll env otherwise
        else pairs.flatMap fun pair => visitsAll (env.bindElement pipeline.targets pair.1 pair.2) body
      | .error _ => []
  | .block .focus pipeline body otherwise =>
    ⟨env, .block .focus pipeline body otherwise⟩ ::
      match blockValue env pipeline with
      | .ok (some v) =>
        if v.isTruthy then visitsAll (env.bindFocus pipeline.targets v) body else visitsAll env otherwise
      | .ok none => visitsAll env otherwise
      | .error _ => []
  | node => [⟨env, node⟩]

/-- The visits of the nodes of a list, one after the other. -/
def visitsAll (env : Env) : List Node → List Visit
  | [] => []
  | node :: nodes => visits env node ++ visitsAll env nodes

end

/-- What a visit contributes by itself. A block contributes nothing, but its value has to be there, and for a loop has to
have elements. -/
def renderVisit (policy : MissingValue) : Visit → Except Error Rendered
  | ⟨env, .block .cond pipeline _ _⟩ => do
    let _ ← blockValue env pipeline
    return .empty
  | ⟨env, .block .loop pipeline _ _⟩ => do
    let _ ← blockValue env pipeline >>= elements
    return .empty
  | ⟨env, .block .focus pipeline _ _⟩ => do
    let _ ← blockValue env pipeline
    return .empty
  | ⟨env, node⟩ => renderNode policy env node

/-- A node that is no block is visited alone. -/
theorem visits_of_not_block {node : Node} (h : node.isBlock = false) (env : Env) : visits env node = [⟨env, node⟩] := by
  cases node with
  | block kind pipeline body otherwise => cases h
  | _ => rfl

/-- The visit of a node that is no block contributes what the node does. -/
theorem renderVisit_of_not_block {node : Node} (h : node.isBlock = false) (policy : MissingValue) (env : Env) :
    renderVisit policy ⟨env, node⟩ = renderNode policy env node := by
  cases node with
  | block kind pipeline body otherwise => cases h
  | _ => rfl

/-- A node that is no block is rendered by its visit. -/
theorem renderNode_of_not_block {node : Node} (h : node.isBlock = false) (policy : MissingValue) (env : Env) :
    renderNode policy env node = concat (renderVisit policy) (visits env node) := by
  rw [visits_of_not_block h, concat_singleton, renderVisit_of_not_block h]

/-- The visits of a block are the block itself and visits of its body or of its alternative. -/
theorem mem_visits_block {env : Env} {kind : BlockKind} {pipeline : Pipeline} {body otherwise : List Node}
    {visit : Visit} (h : visit ∈ visits env (.block kind pipeline body otherwise)) :
    visit = ⟨env, .block kind pipeline body otherwise⟩ ∨ (∃ env', visit ∈ visitsAll env' body) ∨
      visit ∈ visitsAll env otherwise := by
  cases kind with
  | cond =>
    rw [visits] at h
    rcases List.mem_cons.mp h with h | h
    · exact Or.inl h
    · split at h
      · split at h
        · exact Or.inr (Or.inl ⟨_, h⟩)
        · exact Or.inr (Or.inr h)
      · cases h
  | loop =>
    rw [visits] at h
    rcases List.mem_cons.mp h with h | h
    · exact Or.inl h
    · split at h
      · split at h
        · exact Or.inr (Or.inr h)
        · obtain ⟨pair, _, h⟩ := List.mem_flatMap.mp h
          exact Or.inr (Or.inl ⟨_, h⟩)
      · cases h
  | focus =>
    rw [visits] at h
    rcases List.mem_cons.mp h with h | h
    · exact Or.inl h
    · split at h
      · split at h
        · exact Or.inr (Or.inl ⟨_, h⟩)
        · exact Or.inr (Or.inr h)
      · exact Or.inr (Or.inr h)
      · cases h

/-- Renderings of renderings in sequence are one sequence. -/
theorem concat_flatMap {α β : Type} (render : β → Except Error Rendered) (f : α → List β) (xs : List α) :
    concat render (xs.flatMap f) = concat (fun x => concat render (f x)) xs := by
  induction xs with
  | nil => rfl
  | cons x xs ih =>
    rw [List.flatMap_cons, concat_append, ih]
    rfl

/-- A contribution of nothing may be left out. -/
theorem concat_cons_of_empty {α : Type} {render : α → Except Error Rendered} {x : α} (hx : render x = .ok .empty)
    (xs : List α) : concat render (x :: xs) = concat render xs := by
  rw [concat, hx]
  show (do return Rendered.empty ++ (← concat render xs)) = _
  cases concat render xs with
  | error e => rfl
  | ok r => exact congrArg Except.ok (Rendered.empty_append r)

/-- A contribution that fails decides. -/
theorem concat_cons_of_error {α : Type} {render : α → Except Error Rendered} {x : α} {e : Error}
    (hx : render x = .error e) (xs : List α) : concat render (x :: xs) = .error e := by
  rw [concat, hx]
  rfl

mutual

/-- A node is rendered by rendering its visits in sequence. -/
theorem renderNode_eq_concat_visits (policy : MissingValue) (env : Env) (node : Node) :
    renderNode policy env node = concat (renderVisit policy) (visits env node) := by
  match node with
  | .block .cond pipeline body otherwise =>
    rw [renderNode, visits]
    cases hv : blockValue env pipeline with
    | error e => exact (concat_cons_of_error (by rw [renderVisit, hv]; rfl) _).symm
    | ok v =>
      rw [concat_cons_of_empty (by rw [renderVisit, hv]; rfl)]
      show (if _ then _ else _) = concat _ (if _ then _ else _)
      split
      · exact renderNodes_eq_concat_visits policy _ body
      · exact renderNodes_eq_concat_visits policy env otherwise
  | .block .loop pipeline body otherwise =>
    rw [renderNode, visits, ← bind_assoc]
    cases hpairs : blockValue env pipeline >>= elements with
    | error e => exact (concat_cons_of_error (by rw [renderVisit, hpairs]; rfl) _).symm
    | ok pairs =>
      rw [concat_cons_of_empty (by rw [renderVisit, hpairs]; rfl)]
      show (if _ then _ else _) = concat _ (if _ then _ else _)
      split
      · exact renderNodes_eq_concat_visits policy env otherwise
      · rw [concat_flatMap]
        congr 1
        funext pair
        exact renderNodes_eq_concat_visits policy _ body
  | .block .focus pipeline body otherwise =>
    rw [renderNode, visits]
    cases hv : blockValue env pipeline with
    | error e => exact (concat_cons_of_error (by rw [renderVisit, hv]; rfl) _).symm
    | ok v =>
      rw [concat_cons_of_empty (by rw [renderVisit, hv]; rfl)]
      cases v with
      | none => exact renderNodes_eq_concat_visits policy env otherwise
      | some v =>
        show (if _ then _ else _) = concat _ (if _ then _ else _)
        split
        · exact renderNodes_eq_concat_visits policy _ body
        · exact renderNodes_eq_concat_visits policy env otherwise
  | .text s => exact renderNode_of_not_block rfl policy env
  | .action pipeline => exact renderNode_of_not_block rfl policy env
  | .comment s => exact renderNode_of_not_block rfl policy env
  | .breakLoop => exact renderNode_of_not_block rfl policy env
  | .continueLoop => exact renderNode_of_not_block rfl policy env
  | .template name argument => exact renderNode_of_not_block rfl policy env

/-- A list is rendered by rendering its visits in sequence. -/
theorem renderNodes_eq_concat_visits (policy : MissingValue) (env : Env) (nodes : List Node) :
    renderNodes policy env nodes = concat (renderVisit policy) (visitsAll env nodes) := by
  match nodes with
  | [] => rw [renderNodes, visitsAll]; rfl
  | node :: nodes =>
    rw [renderNodes, visitsAll, concat_append, renderNode_eq_concat_visits policy env node,
      renderNodes_eq_concat_visits policy env nodes]

end

end DynamicTemplate

end QueryTemplate
