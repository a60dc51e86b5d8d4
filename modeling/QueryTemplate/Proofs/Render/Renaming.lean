import QueryTemplate.Proofs.Render.Redirection

/-!
# Renamed variables

A variable that a block declares may be renamed, in the declaration and in the body, to a name that occurs nowhere in
the block (`Renaming`). The bindings of each round then have the new name (`bindings_renamed`), and the references in
the body are redirected to it, so the walk comes to the same (`DynamicTemplate.render_renaming`). Nothing outside of
the body is renamed, so no binding of a block is seen outside of it.
-/

namespace QueryTemplate

/-- A name after the renaming of a name. -/
def renamed (x y name : String) : String :=
  if name = x then y else name

/-- A pipeline with a variable that it declares renamed. -/
def Pipeline.renameTarget (x y : String) (p : Pipeline) : Pipeline :=
  { p with targets := p.targets.map (renamed x y) }

/-- A block with a variable that it declares renamed: in its pipeline, and where its body refers to it. -/
def Node.renameVariable (x y : String) (kind : BlockKind) (pipeline : Pipeline) (body otherwise : List Node) : Node :=
  .block kind (Pipeline.renameTarget x y pipeline) (Node.redirectAll ⟨x, y, []⟩ body) otherwise

/-- A block declares a variable, and another name occurs nowhere in the block. Neither is the dot. -/
structure CanRename (x y : String) (kind : BlockKind) (pipeline : Pipeline) (body otherwise : List Node) : Prop where
  declared : x ∈ kind.bound pipeline.targets
  ne_dot : x ≠ dotName
  fresh : y ∉ (Node.block kind pipeline body otherwise).names
  fresh_ne_dot : y ≠ dotName

/-- In the second tree one block of the first, at any depth, has a variable renamed. -/
inductive Renaming (x y : String) : List Node → List Node → Prop where
  | here {front rest : List Node} {kind : BlockKind} {pipeline : Pipeline} {body otherwise : List Node} :
      CanRename x y kind pipeline body otherwise →
      Renaming x y (front ++ .block kind pipeline body otherwise :: rest)
        (front ++ Node.renameVariable x y kind pipeline body otherwise :: rest)
  | body {front rest : List Node} {kind : BlockKind} {pipeline : Pipeline} {body body' otherwise : List Node} :
      Renaming x y body body' →
      Renaming x y (front ++ .block kind pipeline body otherwise :: rest)
        (front ++ .block kind pipeline body' otherwise :: rest)
  | otherwise {front rest : List Node} {kind : BlockKind} {pipeline : Pipeline} {body otherwise otherwise' : List Node} :
      Renaming x y otherwise otherwise' →
      Renaming x y (front ++ .block kind pipeline body otherwise :: rest)
        (front ++ .block kind pipeline body otherwise' :: rest)

/-! ## Renamed bindings -/

namespace Env

/-- Bindings with a name renamed. -/
def renameKey (x y : String) (bindings : Env) : Env :=
  bindings.map fun b => (renamed x y b.1, b.2)

variable {x y : String} {bindings : Env}

/-- The value of a renamed binding is found under the new name. -/
theorem get?_renameKey_self (hx : x ∈ bindings.map Prod.fst) (hy : y ∉ bindings.map Prod.fst) (env env' : Env) :
    Env.get? (bindings.renameKey x y ++ env') y = Env.get? (bindings ++ env) x := by
  induction bindings with
  | nil => cases hx
  | cons first bindings ih =>
    obtain ⟨key, v⟩ := first
    obtain ⟨hkey, hy⟩ := not_or.mp (mt List.mem_cons.mpr hy)
    show (if renamed x y key = y then some v else Env.get? (Env.renameKey x y bindings ++ env') y) =
      if key = x then some v else Env.get? (bindings ++ env) x
    by_cases hself : key = x
    · rw [renamed, if_pos hself, if_pos rfl, if_pos hself]
    · rw [renamed, if_neg hself, if_neg (Ne.symm hkey), if_neg hself]
      exact ih ((List.mem_cons.mp hx).resolve_left (Ne.symm hself)) hy

/-- Under other names the same is found as before. -/
theorem get?_renameKey_of_ne {name : String} (hx : name ≠ x) (hy : name ≠ y) (env : Env) :
    Env.get? (bindings.renameKey x y ++ env) name = Env.get? (bindings ++ env) name := by
  induction bindings with
  | nil => rfl
  | cons first bindings ih =>
    obtain ⟨key, v⟩ := first
    show (if renamed x y key = name then some v else Env.get? (Env.renameKey x y bindings ++ env) name) =
      if key = name then some v else Env.get? (bindings ++ env) name
    rw [ih, renamed]
    by_cases hself : key = x
    · rw [if_pos hself, if_neg (Ne.symm hy), hself, if_neg (Ne.symm hx)]
    · rw [if_neg hself]

/-- After renamed bindings, redirected references lead to where the references lead after the bindings. -/
theorem redirects_renameKey (hx : x ∈ bindings.map Prod.fst) (hy : y ∉ bindings.map Prod.fst) (env : Env) :
    Redirects ⟨x, y, []⟩ (bindings ++ env) (bindings.renameKey x y ++ env) := by
  constructor
  · rw [get?_renameKey_self hx hy env env]
    cases Env.get? (bindings ++ env) x <;> rfl
  · exact fun name hx hy => (get?_renameKey_of_ne hx hy env).symm

end Env

namespace DynamicTemplate

variable {x y : String}

/-- The rounds of a block with a renamed variable bind the same values under the new name. -/
theorem bindings_renamed (hx : x ≠ dotName) (kind : BlockKind) (names : List String) (v : Option Value) :
    bindings kind (names.map (renamed x y)) v = (bindings kind names v).map (List.map (Env.renameKey x y)) := by
  have hdot : renamed x y dotName = dotName := if_neg (Ne.symm hx)
  cases kind with
  | cond =>
    rw [bindings, bindings]
    cases holds v with
    | false => rfl
    | true => cases names <;> cases v <;> rfl
  | loop =>
    rw [bindings, bindings]
    cases elements v with
    | error e => rfl
    | ok pairs =>
      simp only [Except.map, List.map_map]
      refine congrArg Except.ok (List.map_congr_left fun pair _ => ?_)
      cases names with
      | nil => exact congrArg (fun name => [(name, pair.2)]) hdot.symm
      | cons first names => cases names <;> rfl
  | focus =>
    cases v with
    | none => rfl
    | some w =>
      show Except.ok (if w.isTruthy then _ else _) = Except.map _ (.ok (if w.isTruthy then _ else _))
      cases w.isTruthy with
      | false => rfl
      | true =>
        cases names with
        | nil => exact congrArg (fun name => Except.ok [[(name, w)]]) hdot.symm
        | cons first names => rfl

/-- A block with a renamed variable is rendered as the block. -/
theorem renderNode_renameVariable (policy : MissingValue) (env : Env) {kind : BlockKind} {pipeline : Pipeline}
    {body otherwise : List Node} (h : CanRename x y kind pipeline body otherwise) :
    SameOutcome (renderNode policy env (.block kind pipeline body otherwise))
      (renderNode policy env (Node.renameVariable x y kind pipeline body otherwise)) := by
  have hvalue : blockValue env (Pipeline.renameTarget x y pipeline) = blockValue env pipeline := rfl
  have htargets : (Pipeline.renameTarget x y pipeline).targets = pipeline.targets.map (renamed x y) := rfl
  rw [Node.renameVariable, renderNode_block_bindings, renderNode_block_bindings, hvalue, htargets]
  cases blockValue env pipeline with
  | error e => exact Alike.error (Error.SameCause.refl e)
  | ok v =>
    rw [ok_bind, ok_bind, bindings_renamed h.ne_dot]
    cases hbindings : bindings kind pipeline.targets v with
    | error e => exact Alike.error (Error.SameCause.refl e)
    | ok rounds =>
      show SameOutcome (if rounds.isEmpty then _ else _) (if (rounds.map _).isEmpty then _ else concat _ (rounds.map _))
      rw [List.isEmpty_map, concat_map]
      split
      · exact SameOutcome.refl _
      · refine SameOutcome.concat fun b hb => ?_
        have hnames := mem_names_of_bindings hbindings hb
        have hfresh : y ∉ b.map Prod.fst := by
          intro hmem
          rcases BlockKind.mem_of_mem_bound ((hnames y).mp hmem) with htarget | hdot
          · exact h.fresh (List.mem_append_left _ (Pipeline.names_of_targets htarget))
          · exact h.fresh_ne_dot hdot
        refine renderNodes_redirect policy (Env.redirects_renameKey ((hnames x).mpr h.declared) hfresh env) ?_
        -- the new name is neither the dot nor a variable of the body
        intro name hname heq
        have heq : name = y := heq
        subst heq
        rcases List.mem_cons.mp hname with hdot | hbody
        · exact absurd hdot h.fresh_ne_dot
        · exact absurd (List.mem_append_right _ (List.mem_append_left _ hbody)) h.fresh

/-! ## The tree around -/

/-- A node may be replaced in its list by one that comes to the same. -/
theorem SameOutcome.within {policy : MissingValue} {env : Env} {node node' : Node}
    (h : SameOutcome (renderNode policy env node) (renderNode policy env node')) (front rest : List Node) :
    SameOutcome (renderNodes policy env (front ++ node :: rest)) (renderNodes policy env (front ++ node' :: rest)) := by
  rw [renderNodes_append, renderNodes_append, renderNodes, renderNodes]
  exact (SameOutcome.refl _).append (h.append (SameOutcome.refl _))

/-- The lists of a block may be replaced by lists that come to the same in every environment. -/
theorem SameOutcome.block {policy : MissingValue} {body body' otherwise otherwise' : List Node}
    (hbody : ∀ env, SameOutcome (renderNodes policy env body) (renderNodes policy env body'))
    (hotherwise : ∀ env, SameOutcome (renderNodes policy env otherwise) (renderNodes policy env otherwise'))
    (env : Env) (kind : BlockKind) (pipeline : Pipeline) :
    SameOutcome (renderNode policy env (.block kind pipeline body otherwise))
      (renderNode policy env (.block kind pipeline body' otherwise')) := by
  rw [renderNode_block, renderNode_block]
  cases rounds env kind pipeline with
  | error e => exact Alike.error (Error.SameCause.refl e)
  | ok envs =>
    rw [ok_bind, ok_bind]
    split
    · exact hotherwise env
    · exact SameOutcome.concat fun env' _ => hbody env'

/-- A tree with a renamed variable is rendered as the tree, in every environment. -/
theorem renderNodes_renaming {nodes nodes' : List Node} (h : Renaming x y nodes nodes') (policy : MissingValue)
    (env : Env) : SameOutcome (renderNodes policy env nodes) (renderNodes policy env nodes') := by
  induction h generalizing env with
  | @here front rest _ _ _ _ h => exact (renderNode_renameVariable policy env h).within front rest
  | @body front rest kind pipeline _ _ otherwise _ ih =>
    exact (SameOutcome.block ih (fun _ => SameOutcome.refl _) env kind pipeline).within front rest
  | @otherwise front rest kind pipeline body _ _ _ ih =>
    exact (SameOutcome.block (fun _ => SameOutcome.refl _) ih env kind pipeline).within front rest

/-- Bindings do not leak. If in one block of a tree, at any depth, a variable that the block declares is renamed, in
the declaration and where the body refers to it, to a name that occurs nowhere in the block, then the tree comes to the
same from every value: one query with the same arguments, or an error of one cause. What the alternative of the block
and the nodes after it call by the old name is not renamed, so it has never been the variable of the block; and what
they call by the new name is not the renamed variable. -/
theorem render_renaming {nodes nodes' : List Node} (h : Renaming x y nodes nodes') (options : Options) (v : Value) :
    SameOutcome (render nodes options v) (render nodes' options v) :=
  renderNodes_renaming h options.missingValue (.initial v)

/-- The element of a loop is renamed. The loop in its body, over the element, has a variable of the old name: its body
stays as it is, and its alternative is renamed. The alternative of the outer loop and the node after it call the
variable of the condition around them by the old name. -/
theorem render_renaming_shadowed :
    Renaming "$e" "$x"
        [.block .cond ⟨["$e"], false, [[.field ["A"]]]⟩
          [.block .loop ⟨["$i", "$e"], false, [[.field ["Rows"]]]⟩
            [.block .loop ⟨["$e"], false, [[.variable "$e" []]]⟩ [.action ⟨[], false, [[.variable "$e" []]]⟩]
              [.action ⟨[], false, [[.variable "$e" []]]⟩]]
            [.action ⟨[], false, [[.variable "$e" []]]⟩],
            .action ⟨[], false, [[.variable "$e" []]]⟩] []]
        [.block .cond ⟨["$e"], false, [[.field ["A"]]]⟩
          [.block .loop ⟨["$i", "$x"], false, [[.field ["Rows"]]]⟩
            [.block .loop ⟨["$e"], false, [[.variable "$x" []]]⟩ [.action ⟨[], false, [[.variable "$e" []]]⟩]
              [.action ⟨[], false, [[.variable "$x" []]]⟩]]
            [.action ⟨[], false, [[.variable "$e" []]]⟩],
            .action ⟨[], false, [[.variable "$e" []]]⟩] []] ∧
      SameOutcome
        (render
          [.block .cond ⟨["$e"], false, [[.field ["A"]]]⟩
            [.block .loop ⟨["$i", "$e"], false, [[.field ["Rows"]]]⟩
              [.block .loop ⟨["$e"], false, [[.variable "$e" []]]⟩ [.action ⟨[], false, [[.variable "$e" []]]⟩]
                [.action ⟨[], false, [[.variable "$e" []]]⟩]]
              [.action ⟨[], false, [[.variable "$e" []]]⟩],
              .action ⟨[], false, [[.variable "$e" []]]⟩] []] ⟨.error⟩
          (.record [("A", .ofNat 7), ("Rows", .list [.list [.string "a", .string "b"], .list []])]))
        (render
          [.block .cond ⟨["$e"], false, [[.field ["A"]]]⟩
            [.block .loop ⟨["$i", "$x"], false, [[.field ["Rows"]]]⟩
              [.block .loop ⟨["$e"], false, [[.variable "$x" []]]⟩ [.action ⟨[], false, [[.variable "$e" []]]⟩]
                [.action ⟨[], false, [[.variable "$x" []]]⟩]]
              [.action ⟨[], false, [[.variable "$e" []]]⟩],
              .action ⟨[], false, [[.variable "$e" []]]⟩] []] ⟨.error⟩
          (.record [("A", .ofNat 7), ("Rows", .list [.list [.string "a", .string "b"], .list []])])) :=
  have hloop := @Renaming.here "$e" "$x" [] [.action ⟨[], false, [[.variable "$e" []]]⟩] .loop
    ⟨["$i", "$e"], false, [[.field ["Rows"]]]⟩
    [.block .loop ⟨["$e"], false, [[.variable "$e" []]]⟩ [.action ⟨[], false, [[.variable "$e" []]]⟩]
      [.action ⟨[], false, [[.variable "$e" []]]⟩]]
    [.action ⟨[], false, [[.variable "$e" []]]⟩] ⟨by decide, by decide, by decide, by decide⟩
  have hrenaming := @Renaming.body "$e" "$x" [] [] .cond ⟨["$e"], false, [[.field ["A"]]]⟩ _ _ [] hloop
  ⟨hrenaming, render_renaming hrenaming ⟨.error⟩ _⟩

end DynamicTemplate

end QueryTemplate
