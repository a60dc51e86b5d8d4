import QueryTemplate.Proofs.Assembly.Accepted
import QueryTemplate.Proofs.Render.Reached
import QueryTemplate.Proofs.Scope.Declared

/-!
# Variables in scope are bound

Putting a tree together keeps one list of names in scope, and rendering keeps an environment for each branch. What they
have to do with each other is said at the places that a walk reaches: a variable that is evaluated there is bound in the
environment, or one of the alternatives around the place excuses it (`variables_bound`). An alternative excuses the
variables of its block's pipeline, which are in scope to the end of the block but bound only in its body, and those that
an action of the body declares, which stay in scope although the list of the action has ended.
-/

namespace QueryTemplate

/-- The variables that a node declares for the nodes after it. -/
def Node.declared : Node → List String
  | .action pipeline => Pipeline.declared pipeline
  | .template _ (some pipeline) => Pipeline.declared pipeline
  | _ => []

/-- The operand that the rendering of a visit evaluates. -/
def Visit.operand? : Visit → Option Operand
  | ⟨_, .action pipeline⟩ => (Pipeline.outputOperand pipeline).toOption
  | ⟨_, .block _ pipeline _ _⟩ => (Pipeline.controlOperand pipeline).toOption
  | _ => none

/-- A name in scope after a list was in scope before it or is declared by one of its nodes. -/
theorem Accepted.mem_of_mem_last {inLoop : Bool} {scope last : Scope} {nodes : List Node}
    (h : Accepted inLoop scope nodes last) {name : String} (hname : name ∈ last) :
    name ∈ scope ∨ name ∈ nodes.flatMap Node.declared := by
  induction h with
  | nil => exact Or.inl hname
  | action hp _ ih | templateOf _ hp _ ih =>
    rw [List.flatMap_cons, List.mem_append]
    rcases ih hname with hname | hname
    · rcases Scope.mem_of_afterPipeline hp hname with hname | hname
      · exact Or.inl hname
      · exact Or.inr (Or.inl hname)
    · exact Or.inr (Or.inr hname)
  | text _ _ ih | comment _ _ ih | breakLoop _ ih | continueLoop _ ih | template _ _ ih => exact ih hname
  | block _ _ _ _ _ _ ih => exact ih hname

namespace Env

/-- A name that is bound. -/
def Bound (env : Env) (name : String) : Prop :=
  (env.get? name).isSome

/-- A binding binds its name. -/
theorem bound_bind_self (env : Env) (name : String) (v : Value) : (env.bind name v).Bound name := by
  simp [Bound, get?, bind, Value.field?]

/-- A binding leaves the other names bound. -/
theorem Bound.bind {env : Env} {x : String} (h : env.Bound x) (name : String) (v : Value) : (env.bind name v).Bound x := by
  simp only [Bound, get?, Env.bind, Value.field?]
  split
  · rfl
  · exact h

/-- The binding of an `if` leaves the other names bound. -/
theorem Bound.bindCond {env : Env} {x : String} (h : env.Bound x) (names : List String) (v : Option Value) :
    (env.bindCond names v).Bound x := by
  unfold Env.bindCond
  split
  · exact h.bind _ _
  · exact h

/-- The bindings of a loop leave the other names bound. -/
theorem Bound.bindElement {env : Env} {x : String} (h : env.Bound x) (names : List String) (key element : Value) :
    (env.bindElement names key element).Bound x := by
  unfold Env.bindElement
  split
  · exact h.bind _ _
  · exact h.bind _ _
  · exact (h.bind _ _).bind _ _

end Env

namespace DynamicTemplate

/-- A round of a block binds what its environment binds and the variables of the block's pipeline, if these are no more
than its kind allows. -/
theorem bound_of_rounds {env env' : Env} {kind : BlockKind} {pipeline : Pipeline} {envs : List Env}
    (h : rounds env kind pipeline = .ok envs) (hmem : env' ∈ envs)
    (hcount : pipeline.targets.length ≤ Scope.mostVariables (.block kind)) :
    (∀ x, env.Bound x → env'.Bound x) ∧ ∀ x ∈ pipeline.targets, env'.Bound x := by
  cases kind with
  | cond =>
    obtain ⟨v, _, h⟩ := bind_eq_ok.mp h
    cases h
    split at hmem
    · rename_i hholds
      cases List.mem_singleton.mp hmem
      refine ⟨fun x hx => hx.bindCond _ _, ?_⟩
      cases v with
      | none => cases hholds
      | some v =>
        match htargets : pipeline.targets, hcount with
        | [], _ => simp
        | [name], _ => simp [Env.bindCond, Env.bound_bind_self]
        | _ :: _ :: _, hcount => simp [Scope.mostVariables] at hcount
    · cases hmem
  | loop =>
    obtain ⟨pairs, _, h⟩ := bind_eq_ok.mp h
    cases h
    obtain ⟨pair, _, rfl⟩ := List.mem_map.mp hmem
    refine ⟨fun x hx => hx.bindElement _ _ _, ?_⟩
    match htargets : pipeline.targets, hcount with
    | [], _ => simp
    | [name], _ => simp [Env.bindElement, Env.bound_bind_self]
    | [key, name], _ => simp [Env.bindElement, Env.bound_bind_self, Env.Bound.bind]
    | _ :: _ :: _ :: _, hcount => simp [Scope.mostVariables] at hcount
  | focus =>
    obtain ⟨v, _, h⟩ := bind_eq_ok.mp h
    cases v with
    | none => cases h; cases hmem
    | some v =>
      cases h
      split at hmem
      · cases List.mem_singleton.mp hmem
        refine ⟨fun x hx => hx.bind _ _, ?_⟩
        match htargets : pipeline.targets, hcount with
        | [], _ => simp
        | [name], _ => simp [Env.bindFocus, Env.bound_bind_self]
        | _ :: _ :: _, hcount => simp [Scope.mostVariables] at hcount
      · cases hmem

/-- A block with rounds has an operand. -/
theorem controlOperand_of_rounds {env : Env} {kind : BlockKind} {pipeline : Pipeline} {envs : List Env}
    (h : rounds env kind pipeline = .ok envs) : ∃ operand, Pipeline.controlOperand pipeline = .ok operand := by
  have hvalue : ∃ v, blockValue env pipeline = .ok v := by
    cases kind with
    | cond =>
      obtain ⟨v, hv, _⟩ := bind_eq_ok.mp h
      exact ⟨v, hv⟩
    | loop =>
      obtain ⟨_, hpairs, _⟩ := bind_eq_ok.mp h
      obtain ⟨v, hv, _⟩ := bind_eq_ok.mp hpairs
      exact ⟨v, hv⟩
    | focus =>
      obtain ⟨v, hv, _⟩ := bind_eq_ok.mp h
      exact ⟨v, hv⟩
  obtain ⟨v, hv⟩ := hvalue
  obtain ⟨operand, hoperand, _⟩ := bind_eq_ok.mp hv
  exact ⟨operand, hoperand⟩

/-- A node that is rendered leaves the scope as it is. -/
theorem scope_of_renderNode {policy : MissingValue} {env : Env} {inLoop : Bool} {scope last : Scope} {node : Node}
    {nodes : List Node} {r : Rendered} (h : renderNode policy env node = .ok r)
    (haccepted : Accepted inLoop scope (node :: nodes) last) : Accepted inLoop scope nodes last := by
  cases haccepted with
  | text s haccepted => exact haccepted
  | comment s haccepted => exact haccepted
  | block _ _ _ haccepted => exact haccepted
  | action hp haccepted =>
    rw [renderNode] at h
    obtain ⟨operand, hoperand, _⟩ := bind_eq_ok.mp h
    obtain ⟨rfl, _⟩ := Scope.afterPipeline_of_outputOperand hoperand hp
    exact haccepted
  | _ => rw [renderNode] at h; cases h

/-! ## Places that a walk reaches -/

/-- A name that may be in scope in an alternative without being bound there: a variable of the block's pipeline, or one
that the body of the block declares for its own nodes. -/
def Alternative.Excuses (a : Alternative) (name : String) : Prop :=
  name ∈ Pipeline.ownTargets a.pipeline ∨ name ∈ a.body.flatMap Node.declared

/-- A variable that a visit evaluates is in scope there, when the visit is the first of an accepted list. -/
theorem mem_scope_of_operand {env : Env} {inLoop : Bool} {scope last : Scope} {node : Node} {nodes : List Node}
    {name : String} {path : List String} (haccepted : Accepted inLoop scope (node :: nodes) last)
    (hname : Visit.operand? ⟨env, node⟩ = some (.variable name path)) : name ∈ scope := by
  cases haccepted with
  | action hp _ =>
    rw [Visit.operand?] at hname
    cases hoperand : Pipeline.outputOperand ‹_› with
    | error e => rw [hoperand] at hname; cases hname
    | ok operand =>
      rw [hoperand] at hname
      cases hname
      exact (Scope.afterPipeline_of_outputOperand hoperand hp).2 name path rfl
  | block hp _ _ _ =>
    rw [Visit.operand?] at hname
    cases hoperand : Pipeline.controlOperand ‹_› with
    | error e => rw [hoperand] at hname; cases hname
    | ok operand =>
      rw [hoperand] at hname
      cases hname
      exact (Scope.afterPipeline_of_controlOperand hoperand hp).2.2 name path rfl
  | _ => cases hname

/-- A name in scope in the alternative of a block was in scope before the block, or the block excuses it. -/
theorem excuses_of_mem_alternative {inLoop : Bool} {scope inner mid : Scope} {offset : Nat} {kind : BlockKind}
    {pipeline : Pipeline} {body : List Node}
    (hp : Scope.afterPipeline offset (.block kind) scope pipeline = .ok inner) {operand : Operand}
    (hoperand : Pipeline.controlOperand pipeline = .ok operand) (hbody : Accepted inLoop inner body mid) {name : String}
    (hname : name ∈ mid) : name ∈ scope ∨ Alternative.Excuses ⟨pipeline, body⟩ name := by
  obtain ⟨rfl, _, _⟩ := Scope.afterPipeline_of_controlOperand hoperand hp
  rcases hbody.mem_of_mem_last hname with hname | hname
  · rcases List.mem_append.mp hname with hname | hname
    · refine Or.inr (Or.inl ?_)
      rw [Pipeline.ownTargets, (Pipeline.controlOperand_eq_ok.mp hoperand).1]
      exact List.mem_reverse.mp hname
    · exact Or.inl hname
  · exact Or.inr (Or.inr hname)

/-- If every name in scope is bound or excused, so is every variable that is evaluated at a place that the walk reaches,
where the alternatives around the place excuse more names. -/
theorem bound_of_reached {policy : MissingValue} {env : Env} {nodes : List Node} {alternatives : List Alternative}
    {visit : Visit} (h : Reached policy env nodes alternatives visit) {inLoop : Bool} {scope last : Scope}
    (haccepted : Accepted inLoop scope nodes last) {P : String → Prop} (hscope : ∀ x ∈ scope, env.Bound x ∨ P x)
    {name : String} {path : List String} (hname : visit.operand? = some (.variable name path)) :
    visit.env.Bound name ∨ P name ∨ ∃ a ∈ alternatives, a.Excuses name := by
  induction h generalizing inLoop scope last P with
  | here =>
    rcases hscope name (mem_scope_of_operand haccepted hname) with hbound | hP
    · exact Or.inl hbound
    · exact Or.inr (Or.inl hP)
  | later hr _ ih => exact ih (scope_of_renderNode hr haccepted) hscope hname
  | body hrounds _ _ ih =>
    cases haccepted with
    | block hp hbody _ _ =>
      obtain ⟨operand, hoperand⟩ := controlOperand_of_rounds hrounds
      obtain ⟨rfl, hcount, _⟩ := Scope.afterPipeline_of_controlOperand hoperand hp
      obtain ⟨houter, hown⟩ := bound_of_rounds hrounds (List.mem_append_right _ List.mem_cons_self) hcount
      refine ih hbody (fun x hx => ?_) hname
      rcases List.mem_append.mp hx with hx | hx
      · exact Or.inl (hown x (List.mem_reverse.mp hx))
      · exact (hscope x hx).imp_left (houter x)
  | @alternative env kind pipeline body _ _ _ _ hrounds _ ih =>
    cases haccepted with
    | block hp hbody hotherwise _ =>
      obtain ⟨operand, hoperand⟩ := controlOperand_of_rounds hrounds
      have hexcused := ih (P := fun x => P x ∨ Alternative.Excuses ⟨pipeline, body⟩ x) hotherwise
        (fun x hx => by
          rcases excuses_of_mem_alternative hp hoperand hbody hx with hx | hx
          · exact (hscope x hx).imp_right Or.inl
          · exact Or.inr (Or.inr hx))
        hname
      rcases hexcused with hbound | (hP | hexcused) | ⟨a, ha, hexcused⟩
      · exact Or.inl hbound
      · exact Or.inr (Or.inl hP)
      · exact Or.inr (Or.inr ⟨_, List.mem_cons_self, hexcused⟩)
      · exact Or.inr (Or.inr ⟨a, List.mem_cons_of_mem _ ha, hexcused⟩)

/-- Variables are bound where they are evaluated. Every visit of the walk is a place that the walk reaches, and a variable
that is evaluated at such a place is bound in the environment there, unless the place stands in the alternative of a block
that declares the variable, in its pipeline or in an action of its body. -/
theorem variables_bound {source : String} {nodes : List Node} (h : Node.parse source = .ok nodes) (options : Options)
    (v : Value) :
    (∀ front visit rest r, visitsAll (.initial v) nodes = front ++ visit :: rest →
      concat (renderVisit options.missingValue) front = .ok r →
      ∃ alternatives, Reached options.missingValue (.initial v) nodes alternatives visit) ∧
    ∀ alternatives visit name path, Reached options.missingValue (.initial v) nodes alternatives visit →
      visit.operand? = some (.variable name path) →
      visit.env.Bound name ∨ ∃ a ∈ alternatives, a.Excuses name := by
  refine ⟨fun front visit rest r hvisits hr => exists_reached hvisits hr, ?_⟩
  intro alternatives visit name path hreached hname
  obtain ⟨last, haccepted⟩ := accepted_of_parse h
  have hroot : ∀ x ∈ [rootName], (Env.initial v).Bound x ∨ False := by
    intro x hx
    rw [List.mem_singleton.mp hx]
    exact Or.inl rfl
  rcases bound_of_reached hreached haccepted hroot hname with hbound | hfalse | hexcused
  · exact Or.inl hbound
  · exact hfalse.elim
  · exact Or.inr hexcused

/-- The second round of a loop, in which a condition on the index has rendered its body, evaluates the element. -/
theorem variables_bound_in_second_round :
    Node.parse "{{range $i, $e := .Ids}}{{if $i}}, {{end}}{{$e}}{{end}}" =
        .ok [.block .loop ⟨["$i", "$e"], false, [[.field ["Ids"]]]⟩
          [.block .cond ⟨[], false, [[.variable "$i" []]]⟩ [.text ", "] [],
            .action ⟨[], false, [[.variable "$e" []]]⟩] []] ∧
      ((Env.bindElement (.initial (.record [("Ids", .list [.string "a", .string "b"])])) ["$i", "$e"] (.ofNat 1)
          (.string "b")).Bound "$e" ∨
        ∃ a ∈ ([] : List Alternative), a.Excuses "$e") :=
  have hparse : Node.parse "{{range $i, $e := .Ids}}{{if $i}}, {{end}}{{$e}}{{end}}" =
      .ok [.block .loop ⟨["$i", "$e"], false, [[.field ["Ids"]]]⟩
        [.block .cond ⟨[], false, [[.variable "$i" []]]⟩ [.text ", "] [],
          .action ⟨[], false, [[.variable "$e" []]]⟩] []] := by
    decide +kernel
  have hrounds : rounds (.initial (.record [("Ids", .list [.string "a", .string "b"])])) .loop
      ⟨["$i", "$e"], false, [[.field ["Ids"]]]⟩ =
        .ok ([.bindElement (.initial (.record [("Ids", .list [.string "a", .string "b"])])) ["$i", "$e"] (.ofNat 0)
            (.string "a")] ++
          .bindElement (.initial (.record [("Ids", .list [.string "a", .string "b"])])) ["$i", "$e"] (.ofNat 1)
            (.string "b") :: []) := by
    rfl
  ⟨hparse, (variables_bound hparse .default (.record [("Ids", .list [.string "a", .string "b"])])).2 [] ⟨_, _⟩ "$e" []
    (.body hrounds (r := ⟨"?", [.string "a"]⟩) (by rfl) (.later (r := ⟨", ", []⟩) (by rfl) .here)) (by rfl)⟩

/-- The alternative of a block alone is no excuse: an action in the body of a condition declares a variable, and the
alternative, where the variable is still in scope, evaluates it although it is bound nowhere. -/
theorem not_variables_bound :
    ¬∀ (source : String) (nodes : List Node), Node.parse source = .ok nodes → ∀ (options : Options) (v : Value),
      ∀ alternatives visit name path, Reached options.missingValue (.initial v) nodes alternatives visit →
        visit.operand? = some (.variable name path) →
        visit.env.Bound name ∨ ∃ a ∈ alternatives, name ∈ Pipeline.ownTargets a.pipeline := by
  intro h
  have hparse : Node.parse "{{if .A}}{{$x := .B}}{{else}}{{$x}}{{end}}" =
      .ok [.block .cond ⟨[], false, [[.field ["A"]]]⟩ [.action ⟨["$x"], false, [[.field ["B"]]]⟩]
        [.action ⟨[], false, [[.variable "$x" []]]⟩]] := by
    decide +kernel
  have hreached : Reached Options.default.missingValue (.initial .null)
      [.block .cond ⟨[], false, [[.field ["A"]]]⟩ [.action ⟨["$x"], false, [[.field ["B"]]]⟩]
        [.action ⟨[], false, [[.variable "$x" []]]⟩]]
      [⟨⟨[], false, [[.field ["A"]]]⟩, [.action ⟨["$x"], false, [[.field ["B"]]]⟩]⟩]
      ⟨.initial .null, .action ⟨[], false, [[.variable "$x" []]]⟩⟩ :=
    .alternative (by rfl) .here
  rcases h _ _ hparse .default .null _ _ "$x" [] hreached rfl with hbound | ⟨a, ha, hname⟩
  · cases hbound
  · cases List.mem_singleton.mp ha
    cases hname

end DynamicTemplate

end QueryTemplate
