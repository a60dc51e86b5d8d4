import QueryTemplate.Proofs.Render.Walk

/-!
# The places that a walk reaches

A walk reaches a node when everything before it has been rendered (`Reached`). The relation keeps the blocks in whose
alternatives the node stands, which the visits of a walk do not tell. A block renders its body in some environments one
after the other (`rounds`), or else its alternative (`renderNode_block`), so the three kinds of blocks need no cases of
their own. Every visit that a walk comes to is reached (`exists_reached`).
-/

namespace QueryTemplate

namespace DynamicTemplate

/-! ## The rounds of a block -/

/-- The environments in which the body of a block is rendered. If there are none, its alternative is. -/
def rounds (env : Env) : BlockKind → Pipeline → Except Error (List Env)
  | .cond, pipeline => do
    let v ← blockValue env pipeline
    return if holds v then [env.bindCond pipeline.targets v] else []
  | .loop, pipeline => do
    let pairs ← blockValue env pipeline >>= elements
    return pairs.map fun pair => env.bindElement pipeline.targets pair.1 pair.2
  | .focus, pipeline => do
    match ← blockValue env pipeline with
    | some v => return if v.isTruthy then [env.bindFocus pipeline.targets v] else []
    | none => return []

/-- A sequence of renderings of some mapped members is one of the members. -/
theorem concat_map {α β : Type} (render : β → Except Error Rendered) (f : α → β) (xs : List α) :
    concat render (xs.map f) = concat (fun x => render (f x)) xs := by
  induction xs with
  | nil => rfl
  | cons x xs ih => rw [List.map_cons, concat, concat, ih]

/-- A block is rendered by rendering its body in every round, or its alternative if there are no rounds. -/
theorem renderNode_block (policy : MissingValue) (env : Env) (kind : BlockKind) (pipeline : Pipeline)
    (body otherwise : List Node) :
    renderNode policy env (.block kind pipeline body otherwise) =
      rounds env kind pipeline >>= fun envs =>
        if envs.isEmpty then renderNodes policy env otherwise
        else concat (fun env' => renderNodes policy env' body) envs := by
  cases kind with
  | cond =>
    rw [renderNode, rounds]
    cases blockValue env pipeline with
    | error e => rfl
    | ok v => cases hv : holds v <;> simp [ok_bind, hv, pure, Except.pure]
  | loop =>
    rw [renderNode, rounds, ← bind_assoc]
    cases blockValue env pipeline >>= elements with
    | error e => rfl
    | ok pairs =>
      show _ = if (pairs.map _).isEmpty then _ else concat _ (pairs.map _)
      rw [List.isEmpty_map, concat_map]
      rfl
  | focus =>
    rw [renderNode, rounds]
    cases blockValue env pipeline with
    | error e => rfl
    | ok v =>
      cases v with
      | none => rfl
      | some v => cases hv : v.isTruthy <;> simp [ok_bind, hv, pure, Except.pure]

/-- The visits of a block whose rounds are known: the block itself, and the visits of its body in every round, or those of
its alternative if there are no rounds. -/
theorem visits_block {env : Env} {kind : BlockKind} {pipeline : Pipeline} {envs : List Env}
    (h : rounds env kind pipeline = .ok envs) (body otherwise : List Node) :
    visits env (.block kind pipeline body otherwise) =
      ⟨env, .block kind pipeline body otherwise⟩ ::
        if envs.isEmpty then visitsAll env otherwise else envs.flatMap fun env' => visitsAll env' body := by
  cases kind with
  | cond =>
    obtain ⟨v, hv, h⟩ := bind_eq_ok.mp h
    cases h
    rw [visits, hv]
    cases hholds : holds v <;> simp [hholds]
  | loop =>
    obtain ⟨pairs, hpairs, h⟩ := bind_eq_ok.mp h
    cases h
    rw [visits, hpairs, List.isEmpty_map, List.flatMap_map]
  | focus =>
    obtain ⟨v, hv, h⟩ := bind_eq_ok.mp h
    rw [visits, hv]
    cases v with
    | none => cases h; rfl
    | some v =>
      cases h
      cases htruthy : v.isTruthy <;> simp [htruthy]

/-- The visit of a block contributes nothing once the rounds of the block are known. -/
theorem renderVisit_block (policy : MissingValue) (env : Env) (kind : BlockKind) (pipeline : Pipeline)
    (body otherwise : List Node) :
    renderVisit policy ⟨env, .block kind pipeline body otherwise⟩ =
      rounds env kind pipeline >>= fun _ => .ok .empty := by
  cases kind with
  | cond =>
    rw [renderVisit, rounds]
    cases blockValue env pipeline <;> rfl
  | loop =>
    rw [renderVisit, rounds]
    cases blockValue env pipeline >>= elements <;> rfl
  | focus =>
    rw [renderVisit, rounds]
    cases blockValue env pipeline with
    | error e => rfl
    | ok v => cases v <;> rfl

/-! ## What a walk reaches -/

/-- A block in whose alternative something stands: the pipeline and the body of the block. -/
structure Alternative where
  pipeline : Pipeline
  body : List Node

/-- The walk of a list of nodes in an environment reaches a visit: all that comes before it is rendered. The alternatives
in which the visit stands are listed, the outermost first. -/
inductive Reached (policy : MissingValue) : Env → List Node → List Alternative → Visit → Prop where
  | here {env : Env} {node : Node} {nodes : List Node} : Reached policy env (node :: nodes) [] ⟨env, node⟩
  | later {env : Env} {node : Node} {nodes : List Node} {alternatives : List Alternative} {visit : Visit} {r : Rendered} :
      renderNode policy env node = .ok r → Reached policy env nodes alternatives visit →
      Reached policy env (node :: nodes) alternatives visit
  | body {env env' : Env} {before after : List Env} {kind : BlockKind} {pipeline : Pipeline}
      {body otherwise nodes : List Node} {alternatives : List Alternative} {visit : Visit} {r : Rendered} :
      rounds env kind pipeline = .ok (before ++ env' :: after) →
      concat (fun e => renderNodes policy e body) before = .ok r → Reached policy env' body alternatives visit →
      Reached policy env (.block kind pipeline body otherwise :: nodes) alternatives visit
  | alternative {env : Env} {kind : BlockKind} {pipeline : Pipeline} {body otherwise nodes : List Node}
      {alternatives : List Alternative} {visit : Visit} :
      rounds env kind pipeline = .ok [] → Reached policy env otherwise alternatives visit →
      Reached policy env (.block kind pipeline body otherwise :: nodes) (⟨pipeline, body⟩ :: alternatives) visit

/-- A place in two lists that follow each other is a place in the first of them, or in the second after the first. -/
theorem append_eq_append_cons {β : Type} {xs ys front rest : List β} {b : β} (h : xs ++ ys = front ++ b :: rest) :
    (∃ rest', xs = front ++ b :: rest') ∨ ∃ front', front = xs ++ front' ∧ ys = front' ++ b :: rest := by
  rcases List.append_eq_append_iff.mp h with ⟨front', hfront, hys⟩ | ⟨rest', hxs, hrest⟩
  · exact Or.inr ⟨front', hfront, hys⟩
  · rcases List.cons_eq_append_iff.mp hrest with ⟨rfl, hys⟩ | ⟨rest'', rfl, _⟩
    · exact Or.inr ⟨[], by rw [hxs, List.append_nil, List.append_nil], hys⟩
    · exact Or.inl ⟨rest'', hxs⟩

/-- A place in lists that follow each other is a place in one of them, after the lists before it. -/
theorem flatMap_eq_append_cons {α β : Type} {f : α → List β} {xs : List α} {front rest : List β} {b : β}
    (h : xs.flatMap f = front ++ b :: rest) :
    ∃ before x after front' rest', xs = before ++ x :: after ∧ front = before.flatMap f ++ front' ∧
      f x = front' ++ b :: rest' := by
  induction xs generalizing front with
  | nil => simp at h
  | cons x xs ih =>
    rcases append_eq_append_cons h with ⟨rest', hx⟩ | ⟨front', rfl, hxs⟩
    · exact ⟨[], x, xs, front, rest', rfl, rfl, hx⟩
    · obtain ⟨before, y, after, front'', rest', rfl, rfl, hy⟩ := ih hxs
      exact ⟨x :: before, y, after, front'', rest', rfl, by simp, hy⟩

mutual

/-- The visits that a walk comes to within a node are reached. -/
theorem exists_reached_of_visits {policy : MissingValue} {env : Env} {node : Node} {front rest : List Visit}
    {visit : Visit} {r : Rendered} (h : visits env node = front ++ visit :: rest)
    (hr : concat (renderVisit policy) front = .ok r) (nodes : List Node) :
    ∃ alternatives, Reached policy env (node :: nodes) alternatives visit := by
  match node with
  | .block kind pipeline body otherwise =>
    match front with
    | [] =>
      have hvisit : visit = ⟨env, .block kind pipeline body otherwise⟩ := by
        cases kind <;>
        · rw [visits] at h
          exact (List.cons.inj h).1.symm
      exact ⟨[], hvisit ▸ Reached.here⟩
    | first :: front =>
      have hfirst : first = ⟨env, .block kind pipeline body otherwise⟩ := by
        cases kind <;>
        · rw [visits] at h
          exact (List.cons.inj h).1.symm
      -- the block itself was visited, so its rounds are known
      obtain ⟨r₁, hr₁, hr⟩ := bind_eq_ok.mp hr
      obtain ⟨r₂, hr₂, _⟩ := bind_eq_ok.mp hr
      rw [hfirst, renderVisit_block] at hr₁
      obtain ⟨envs, henvs, _⟩ := bind_eq_ok.mp hr₁
      rw [visits_block henvs] at h
      cases envs with
      | nil =>
        have hotherwise : visitsAll env otherwise = front ++ visit :: rest := (List.cons.inj h).2
        obtain ⟨alternatives, halternatives⟩ := exists_reached hotherwise hr₂
        exact ⟨_, Reached.alternative henvs halternatives⟩
      | cons env₁ envs =>
        have hrounds : (env₁ :: envs).flatMap (fun env' => visitsAll env' body) = front ++ visit :: rest :=
          (List.cons.inj h).2
        obtain ⟨before, env', after, front', rest', henvs', rfl, hbody⟩ := flatMap_eq_append_cons hrounds
        rw [concat_append] at hr₂
        obtain ⟨r₃, hbefore, hr₂⟩ := bind_eq_ok.mp hr₂
        obtain ⟨r₄, hfront, _⟩ := bind_eq_ok.mp hr₂
        rw [concat_flatMap] at hbefore
        obtain ⟨alternatives, halternatives⟩ := exists_reached hbody hfront
        have hrender : concat (fun e => renderNodes policy e body) before = .ok r₃ := by
          rw [← hbefore]
          congr 1
          funext e
          exact renderNodes_eq_concat_visits policy e body
        exact ⟨alternatives, Reached.body (henvs' ▸ henvs) hrender halternatives⟩
  | .text _ | .action _ | .comment _ | .breakLoop | .continueLoop | .template _ _ =>
    rw [visits_of_not_block rfl] at h
    cases front with
    | nil => exact ⟨[], (List.cons.inj h).1 ▸ Reached.here⟩
    | cons first front => simp at h

/-- The visits that a walk comes to are reached. -/
theorem exists_reached {policy : MissingValue} {env : Env} {nodes : List Node} {front rest : List Visit}
    {visit : Visit} {r : Rendered} (h : visitsAll env nodes = front ++ visit :: rest)
    (hr : concat (renderVisit policy) front = .ok r) :
    ∃ alternatives, Reached policy env nodes alternatives visit := by
  match nodes with
  | [] => simp [visitsAll] at h
  | node :: nodes =>
    rw [visitsAll] at h
    rcases append_eq_append_cons h with ⟨rest', hnode⟩ | ⟨front', rfl, hnodes⟩
    · exact exists_reached_of_visits hnode hr nodes
    · rw [concat_append] at hr
      obtain ⟨r₁, hr₁, hr⟩ := bind_eq_ok.mp hr
      obtain ⟨r₂, hr₂, _⟩ := bind_eq_ok.mp hr
      obtain ⟨alternatives, halternatives⟩ := exists_reached hnodes hr₂
      rw [← renderNode_eq_concat_visits] at hr₁
      exact ⟨alternatives, Reached.later hr₁ halternatives⟩

end

end DynamicTemplate

end QueryTemplate
