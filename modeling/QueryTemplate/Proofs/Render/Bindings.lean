import QueryTemplate.Proofs.Render.Reached
import QueryTemplate.Proofs.Syntax.Redirection

/-!
# What the rounds of a block bind

The environment of a round is the environment of the block with some bindings before it. The bindings come from the
value of the block's pipeline alone (`rounds_eq_map`), and they bind the same names in every round
(`mem_names_of_bindings`). So a walk depends on its environment only by the variables that occur in the tree and by the
dot (`renderNodes_congr`).
-/

namespace QueryTemplate

namespace Env

/-- Names that are bound before others are found there. -/
theorem get?_append (bindings env : Env) (name : String) :
    Env.get? (bindings ++ env) name = if name ∈ bindings.map Prod.fst then bindings.get? name else env.get? name := by
  induction bindings with
  | nil => rfl
  | cons first bindings ih =>
    obtain ⟨key, v⟩ := first
    simp only [get?, List.cons_append, Value.field?, List.map_cons, List.mem_cons] at ih ⊢
    by_cases hkey : key = name
    · simp [hkey]
    · have hname : ¬name = key := fun h => hkey h.symm
      simp only [hkey, hname, if_false, false_or, ih]

/-- Environments in which the dot and some names lead to the same values. -/
def AgreeOn (names : List String) (env env' : Env) : Prop :=
  ∀ name ∈ dotName :: names, env.get? name = env'.get? name

namespace AgreeOn

variable {names : List String} {env env' : Env}

theorem mono (h : AgreeOn names env env') {names' : List String} (hsubset : ∀ name ∈ names', name ∈ names) :
    AgreeOn names' env env' := by
  intro name hname
  rcases List.mem_cons.mp hname with rfl | hname
  · exact h _ List.mem_cons_self
  · exact h name (List.mem_cons_of_mem _ (hsubset name hname))

/-- Environments agree after the same bindings. -/
theorem append (h : AgreeOn names env env') (bindings : Env) : AgreeOn names (bindings ++ env) (bindings ++ env') := by
  intro name hname
  rw [get?_append, get?_append, h name hname]

/-- An operand stands for the same in environments that agree on its variables. -/
theorem eval {operand : Operand} (h : AgreeOn operand.names env env') : env.eval operand = env'.eval operand := by
  match operand with
  | .bool _ | .number _ _ | .string _ | .nil | .function _ | .group _ => rfl
  | .dot | .field _ =>
    rw [Env.eval, Env.eval, h dotName List.mem_cons_self]
  | .variable name _ =>
    rw [Env.eval, Env.eval, h name (List.mem_cons_of_mem _ List.mem_cons_self)]

end AgreeOn

end Env

namespace DynamicTemplate

/-! ## The bindings of rounds -/

/-- What the rounds of a block bind whose pipeline has a value: one list of bindings for each round. -/
def bindings (kind : BlockKind) (names : List String) (v : Option Value) : Except Error (List Env) :=
  match kind with
  | .cond => .ok (if holds v then [Env.bindCond [] names v] else [])
  | .loop => (elements v).map fun pairs => pairs.map fun pair => Env.bindElement [] names pair.1 pair.2
  | .focus =>
    match v with
    | some w => .ok (if w.isTruthy then [Env.bindFocus [] names w] else [])
    | none => .ok []

theorem bindCond_eq_append (env : Env) (names : List String) (v : Option Value) :
    env.bindCond names v = Env.bindCond [] names v ++ env := by
  unfold Env.bindCond
  split <;> rfl

theorem bindElement_eq_append (env : Env) (names : List String) (key element : Value) :
    env.bindElement names key element = Env.bindElement [] names key element ++ env := by
  unfold Env.bindElement
  split <;> rfl

/-- The environment of a round is that of the block after the bindings of the round. -/
theorem rounds_eq_map (env : Env) (kind : BlockKind) (pipeline : Pipeline) :
    rounds env kind pipeline =
      (blockValue env pipeline >>= bindings kind pipeline.targets).map (List.map (· ++ env)) := by
  cases kind with
  | cond =>
    rw [rounds]
    cases blockValue env pipeline with
    | error e => rfl
    | ok v =>
      rw [ok_bind, ok_bind, bindCond_eq_append, bindings]
      cases holds v <;> rfl
  | loop =>
    rw [rounds, bind_assoc]
    cases blockValue env pipeline with
    | error e => rfl
    | ok v =>
      rw [ok_bind, ok_bind, bindings]
      cases elements v with
      | error e => rfl
      | ok pairs =>
        simp only [ok_bind, Except.map, List.map_map]
        refine congrArg Except.ok (List.map_congr_left fun pair _ => ?_)
        exact bindElement_eq_append env pipeline.targets pair.1 pair.2
  | focus =>
    rw [rounds]
    cases blockValue env pipeline with
    | error e => rfl
    | ok v =>
      cases v with
      | none => rfl
      | some w =>
        show Except.ok (if w.isTruthy then _ else _) = Except.map _ (.ok (if w.isTruthy then _ else _))
        cases w.isTruthy <;> rfl

/-- A block is rendered by rendering its body after the bindings of each round, or its alternative if there are none. -/
theorem renderNode_block_bindings (policy : MissingValue) (env : Env) (kind : BlockKind) (pipeline : Pipeline)
    (body otherwise : List Node) :
    renderNode policy env (.block kind pipeline body otherwise) =
      (blockValue env pipeline >>= bindings kind pipeline.targets) >>= fun rounds =>
        if rounds.isEmpty then renderNodes policy env otherwise
        else concat (fun bound => renderNodes policy (bound ++ env) body) rounds := by
  rw [renderNode_block, rounds_eq_map]
  cases blockValue env pipeline >>= bindings kind pipeline.targets with
  | error e => rfl
  | ok rounds =>
    show (if (rounds.map _).isEmpty then _ else concat _ (rounds.map _)) = if rounds.isEmpty then _ else concat _ rounds
    rw [List.isEmpty_map, concat_map]

/-- Every round of a block binds the names that the block binds. -/
theorem mem_names_of_bindings {kind : BlockKind} {names : List String} {v : Option Value} {envs : List Env}
    (h : bindings kind names v = .ok envs) {env : Env} (henv : env ∈ envs) (name : String) :
    name ∈ env.map Prod.fst ↔ name ∈ kind.bound names := by
  cases kind with
  | cond =>
    cases h
    split at henv
    · rename_i hholds
      cases List.mem_singleton.mp henv
      cases v with
      | none => cases hholds
      | some w => cases names <;> rfl
    · cases henv
  | loop =>
    obtain ⟨pairs, -, rfl⟩ := map_eq_ok.mp h
    obtain ⟨pair, -, rfl⟩ := List.mem_map.mp henv
    match names with
    | [] => rfl
    | [only] => rfl
    | key :: element :: _ =>
      show name ∈ [element, key] ↔ name ∈ [key, element]
      simp [or_comm]
  | focus =>
    cases v with
    | none =>
      cases h
      cases henv
    | some w =>
      cases h
      split at henv
      · cases List.mem_singleton.mp henv
        rfl
      · cases henv

/-! ## Names that occur -/

/-- The operand of a block is one of the operands in its pipeline. -/
theorem blockValue_congr {env env' : Env} {pipeline : Pipeline}
    (h : Env.AgreeOn (Operand.namesOfPipeline pipeline) env env') :
    blockValue env pipeline = blockValue env' pipeline := by
  rw [blockValue, blockValue]
  cases hoperand : Pipeline.controlOperand pipeline with
  | error e => rfl
  | ok operand =>
    have hcommands := (Pipeline.controlOperand_eq_ok.mp hoperand).2.1
    exact (h.mono fun name => Pipeline.names_of_operand hcommands).eval

theorem renderAction_congr {policy : MissingValue} {env env' : Env} {pipeline : Pipeline}
    (h : Env.AgreeOn (Operand.namesOfPipeline pipeline) env env') :
    renderAction policy env pipeline = renderAction policy env' pipeline := by
  rw [renderAction, renderAction]
  cases hoperand : Pipeline.outputOperand pipeline with
  | error e => rfl
  | ok operand =>
    obtain ⟨rfl, -⟩ := Pipeline.outputOperand_eq_ok.mp hoperand
    have heval : env.eval operand = env'.eval operand := (h.mono fun name => Pipeline.names_of_operand rfl).eval
    rw [ok_bind, ok_bind, heval]

mutual

/-- A node is rendered alike in environments that agree on the variables that occur in it. -/
theorem renderNode_congr (policy : MissingValue) {env env' : Env} {node : Node}
    (h : Env.AgreeOn node.names env env') : renderNode policy env node = renderNode policy env' node := by
  match node with
  | .action pipeline =>
    rw [renderNode, renderNode]
    exact renderAction_congr h
  | .block kind pipeline body otherwise =>
    have hpipeline : Env.AgreeOn (Operand.namesOfPipeline pipeline) env env' :=
      h.mono fun name hname => List.mem_append_left _ hname
    have hbody : Env.AgreeOn (Node.namesAll body) env env' :=
      h.mono fun name hname => List.mem_append_right _ (List.mem_append_left _ hname)
    have hotherwise : Env.AgreeOn (Node.namesAll otherwise) env env' :=
      h.mono fun name hname => List.mem_append_right _ (List.mem_append_right _ hname)
    have hrounds : (fun bound => renderNodes policy (bound ++ env) body) =
        fun bound => renderNodes policy (bound ++ env') body :=
      funext fun bound => renderNodes_congr policy (hbody.append bound)
    rw [renderNode_block_bindings, renderNode_block_bindings, blockValue_congr hpipeline,
      renderNodes_congr policy hotherwise, hrounds]
  | .text _ | .comment _ | .breakLoop | .continueLoop | .template _ _ =>
    rw [renderNode, renderNode]

/-- A list of nodes is rendered alike in environments that agree on the variables that occur in it. -/
theorem renderNodes_congr (policy : MissingValue) {env env' : Env} {nodes : List Node}
    (h : Env.AgreeOn (Node.namesAll nodes) env env') :
    renderNodes policy env nodes = renderNodes policy env' nodes := by
  match nodes with
  | [] => rw [renderNodes, renderNodes]
  | node :: nodes =>
    rw [renderNodes, renderNodes,
      renderNode_congr policy (h.mono fun name hname => List.mem_append_left _ hname),
      renderNodes_congr policy (h.mono fun name hname => List.mem_append_right _ hname)]

end

end DynamicTemplate

end QueryTemplate
