import QueryTemplate.Proofs.Render.Bindings
import QueryTemplate.Proofs.Render.Flat

/-!
# Walks of redirected trees

Where an environment leads the redirected references to what another environment leads the references to
(`Env.Redirects`), the redirected tree is rendered as the tree is (`DynamicTemplate.renderNodes_redirect`). The
relation between the environments holds as long as the name is not bound anew; from there on they agree on what occurs
in the tree. So a `with` on a path may be replaced by its body, with the path before every field path
(`DynamicTemplate.focus_prefixes_paths`).
-/

namespace QueryTemplate

/-- A name that a redirection leaves free for its target: another name than the target, unless references stay below
their own name. -/
def Redirection.Spares (r : Redirection) (name : String) : Prop :=
  name = r.target → name = r.name

/-- A redirection leaves the dot and some names free for its target. -/
def Redirection.SparesAll (r : Redirection) (names : List String) : Prop :=
  ∀ name ∈ dotName :: names, r.Spares name

theorem Redirection.SparesAll.mono {r : Redirection} {names names' : List String} (h : r.SparesAll names)
    (hsubset : ∀ name ∈ names', name ∈ names) : r.SparesAll names' := by
  intro name hname
  rcases List.mem_cons.mp hname with rfl | hname
  · exact h _ List.mem_cons_self
  · exact h name (List.mem_cons_of_mem _ (hsubset name hname))

/-- A reference leads to its path below its name. -/
theorem Env.eval_reference (env : Env) (name : String) (path : List String) :
    env.eval (.reference name path) = .ok ((env.get? name).bind (Value.lookup? path)) := by
  unfold Operand.reference
  split
  · rename_i hname
    subst hname
    split
    · rw [eval]
      cases env.get? dotName <;> rfl
    · rfl
  · rfl

/-- The second environment leads redirected references to where the first leads the references, and all other names to
the same values. -/
structure Env.Redirects (r : Redirection) (env env' : Env) : Prop where
  reference : env.get? r.name = (env'.get? r.target).bind (Value.lookup? r.path)
  others : ∀ name, name ≠ r.name → name ≠ r.target → env.get? name = env'.get? name

namespace Env.Redirects

variable {r : Redirection} {env env' : Env}

theorem get?_of_ne (h : Redirects r env env') {name : String} (hspared : r.Spares name) (hname : name ≠ r.name) :
    env.get? name = env'.get? name :=
  h.others name hname fun htarget => hname (hspared htarget)

/-- A redirected reference leads to where the reference leads. -/
theorem eval_below (h : Redirects r env env') (path : List String) :
    env'.eval (r.below path) = .ok ((env.get? r.name).bind (Value.lookup? path)) := by
  rw [Redirection.below, eval_reference, h.reference]
  cases env'.get? r.target with
  | none => rfl
  | some v => exact congrArg Except.ok (Value.lookup?_append r.path path v)

/-- A redirected operand stands for what the operand stands for. -/
theorem eval (h : Redirects r env env') {operand : Operand} (hspared : r.SparesAll operand.names) :
    env'.eval (operand.redirect r) = env.eval operand := by
  match operand with
  | .bool _ | .number _ _ | .string _ | .nil | .function _ | .group _ => rfl
  | .dot =>
    rw [Operand.redirect]
    split
    · rename_i hname
      rw [h.eval_below, ← hname, Env.eval]
      cases env.get? dotName <;> rfl
    · rename_i hname
      rw [Env.eval, Env.eval, h.get?_of_ne (hspared _ List.mem_cons_self) hname]
  | .field path =>
    rw [Operand.redirect]
    split
    · rename_i hname
      rw [h.eval_below, ← hname, Env.eval]
    · rename_i hname
      rw [Env.eval, Env.eval, h.get?_of_ne (hspared _ List.mem_cons_self) hname]
  | .variable name path =>
    rw [Operand.redirect]
    split
    · rename_i hname
      rw [h.eval_below, ← hname, Env.eval]
    · rename_i hname
      rw [Env.eval, Env.eval, h.get?_of_ne (hspared _ (List.mem_cons_of_mem _ List.mem_cons_self)) hname]

/-- Bindings of other names keep redirected references where they are. -/
theorem append (h : Redirects r env env') {bindings : Env} (hname : r.name ∉ bindings.map Prod.fst)
    (hspared : ∀ name ∈ bindings.map Prod.fst, r.Spares name) :
    Redirects r (bindings ++ env) (bindings ++ env') := by
  have htarget : r.target ∉ bindings.map Prod.fst := fun hmem => hname (hspared _ hmem rfl ▸ hmem)
  constructor
  · rw [get?_append, get?_append, if_neg hname, if_neg htarget]
    exact h.reference
  · intro name hne hne'
    rw [get?_append, get?_append, h.others name hne hne']

/-- Once the name is bound anew, the environments agree. -/
theorem agreeOn (h : Redirects r env env') {bindings : Env} (hname : r.name ∈ bindings.map Prod.fst)
    {names : List String} (hspared : r.SparesAll names) :
    AgreeOn names (bindings ++ env) (bindings ++ env') := by
  intro name hmem
  rw [get?_append, get?_append]
  split
  · rfl
  · rename_i hfree
    exact h.get?_of_ne (hspared name hmem) fun heq => hfree (heq ▸ hname)

end Env.Redirects

/-! ## The two walks -/

namespace DynamicTemplate

/-- Two renderings that both give one query with the same arguments, or both fail for one cause. -/
abbrev SameOutcome : Except Error Rendered → Except Error Rendered → Prop :=
  Alike Error.SameCause Eq

theorem SameOutcome.refl (x : Except Error Rendered) : SameOutcome x x :=
  Alike.refl (E := Error.SameCause) Error.SameCause.refl (fun _ => rfl) x

/-- Parts rendered one after the other come to the same when each of them does. -/
theorem SameOutcome.append {a b c d : Except Error Rendered} (hab : SameOutcome a b) (hcd : SameOutcome c d) :
    SameOutcome (do return (← a) ++ (← c)) (do return (← b) ++ (← d)) :=
  hab.bind fun _ _ hfirst => hcd.bind fun _ _ hrest => Alike.ok (by rw [hfirst, hrest])

/-- Renderings in sequence come to the same when each of them does. -/
theorem SameOutcome.concat {α : Type} {f g : α → Except Error Rendered} {xs : List α}
    (h : ∀ x ∈ xs, SameOutcome (f x) (g x)) : SameOutcome (concat f xs) (concat g xs) := by
  induction xs with
  | nil => exact SameOutcome.refl _
  | cons x xs ih =>
    exact (h x List.mem_cons_self).append (ih fun y hy => h y (List.mem_cons_of_mem x hy))

variable {r : Redirection} {env env' : Env}

/-- The value of a redirected block is the value of the block. -/
theorem blockValue_redirect (h : Env.Redirects r env env') {pipeline : Pipeline}
    (hspared : r.SparesAll (Operand.namesOfPipeline pipeline)) :
    blockValue env' (Operand.redirectPipeline r pipeline) = blockValue env pipeline := by
  rw [blockValue, blockValue, Pipeline.controlOperand_redirect]
  cases hoperand : Pipeline.controlOperand pipeline with
  | error e => rfl
  | ok operand =>
    have hcommands := (Pipeline.controlOperand_eq_ok.mp hoperand).2.1
    exact h.eval (hspared.mono fun name => Pipeline.names_of_operand hcommands)

/-- A redirected action is rendered as the action, but for the text of a missing reference. -/
theorem renderAction_redirect (policy : MissingValue) (h : Env.Redirects r env env') {pipeline : Pipeline}
    (hspared : r.SparesAll (Operand.namesOfPipeline pipeline)) :
    SameOutcome (renderAction policy env pipeline)
      (renderAction policy env' (Operand.redirectPipeline r pipeline)) := by
  rw [renderAction, renderAction, Pipeline.outputOperand_redirect]
  cases hoperand : Pipeline.outputOperand pipeline with
  | error e => exact Alike.error (Error.SameCause.refl e)
  | ok operand =>
    obtain ⟨rfl, -⟩ := Pipeline.outputOperand_eq_ok.mp hoperand
    have heval : env'.eval (operand.redirect r) = env.eval operand :=
      h.eval (hspared.mono fun name => Pipeline.names_of_operand rfl)
    simp only [Except.map, ok_bind, Operand.literalText?_redirect, heval]
    cases operand.literalText? with
    | some text => exact SameOutcome.refl _
    | none =>
      cases env.eval operand with
      | error e => exact Alike.error (Error.SameCause.refl e)
      | ok v =>
        exact (StaticTemplate.extract_alike policy _ _ v).bind fun _ _ hargument =>
          Alike.ok (congrArg Rendered.ofArgument hargument)

mutual

/-- A redirected node is rendered as the node. -/
theorem renderNode_redirect (policy : MissingValue) {env env' : Env} (h : Env.Redirects r env env') {node : Node}
    (hspared : r.SparesAll node.names) :
    SameOutcome (renderNode policy env node) (renderNode policy env' (node.redirect r)) := by
  match node with
  | .action pipeline =>
    rw [Node.redirect, renderNode, renderNode]
    exact renderAction_redirect policy h hspared
  | .block kind pipeline body otherwise =>
    have hpipeline : r.SparesAll (Operand.namesOfPipeline pipeline) :=
      hspared.mono fun name hname => List.mem_append_left _ hname
    have hbody : r.SparesAll (Node.namesAll body) :=
      hspared.mono fun name hname => List.mem_append_right _ (List.mem_append_left _ hname)
    have hotherwise : r.SparesAll (Node.namesAll otherwise) :=
      hspared.mono fun name hname => List.mem_append_right _ (List.mem_append_right _ hname)
    rw [Node.redirect, renderNode_block_bindings, renderNode_block_bindings, blockValue_redirect h hpipeline,
      Pipeline.targets_redirect]
    cases hbindings : blockValue env pipeline >>= bindings kind pipeline.targets with
    | error e => exact Alike.error (Error.SameCause.refl e)
    | ok rounds =>
      rw [ok_bind, ok_bind]
      split
      · exact renderNodes_redirect policy h hotherwise
      · refine SameOutcome.concat fun b hb => ?_
        obtain ⟨v, -, hbound⟩ := bind_eq_ok.mp hbindings
        have hnames := mem_names_of_bindings hbound hb
        -- a body in which the name is bound anew stays as it is
        split
        · rename_i hname
          rw [renderNodes_congr policy (h.agreeOn ((hnames _).mpr hname) hbody)]
          exact SameOutcome.refl _
        · rename_i hname
          have hfree : r.name ∉ b.map Prod.fst := fun hmem => hname ((hnames _).mp hmem)
          refine renderNodes_redirect policy (h.append hfree fun name hmem => ?_) hbody
          rcases BlockKind.mem_of_mem_bound ((hnames name).mp hmem) with htarget | rfl
          · exact hpipeline name (List.mem_cons_of_mem _ (Pipeline.names_of_targets htarget))
          · exact hpipeline _ List.mem_cons_self
  | .text _ | .comment _ | .breakLoop | .continueLoop =>
    rw [Node.redirect, renderNode, renderNode]
    exact SameOutcome.refl _
  | .template name argument =>
    cases argument <;>
    · rw [Node.redirect, renderNode, renderNode]
      exact SameOutcome.refl _

/-- A redirected list of nodes is rendered as the list. -/
theorem renderNodes_redirect (policy : MissingValue) {env env' : Env} (h : Env.Redirects r env env') {nodes : List Node}
    (hspared : r.SparesAll (Node.namesAll nodes)) :
    SameOutcome (renderNodes policy env nodes) (renderNodes policy env' (Node.redirectAll r nodes)) := by
  match nodes with
  | [] =>
    rw [Node.redirectAll, renderNodes, renderNodes]
    exact SameOutcome.refl _
  | node :: nodes =>
    rw [Node.redirectAll, renderNodes, renderNodes]
    exact (renderNode_redirect policy h (hspared.mono fun name hname => List.mem_append_left _ hname)).append
      (renderNodes_redirect policy h (hspared.mono fun name hname => List.mem_append_right _ hname))

end

/-! ## `with` on a path -/

/-- A `with` is path prefixing. Where a path leads from the dot to a value that holds, a `with` on the path without
variables comes to the same as its body in the environment outside, with every reference to the dot redirected to the
path below it: the dot becomes the path, and a field path comes after it. Only the bodies of blocks that bind the dot
anew stay as they are. -/
theorem focus_prefixes_paths {env : Env} {path : List String} {v : Value}
    (hpath : (env.get? dotName).bind (Value.lookup? path) = some v) (hv : v.isTruthy = true) (policy : MissingValue)
    (body otherwise : List Node) :
    SameOutcome (renderNode policy env (.block .focus ⟨[], false, [[.field path]]⟩ body otherwise))
      (renderNodes policy env (Node.redirectAll ⟨dotName, dotName, path⟩ body)) := by
  have hvalue : blockValue env ⟨[], false, [[.field path]]⟩ = .ok (some v) := congrArg Except.ok hpath
  have hbody : renderNode policy env (.block .focus ⟨[], false, [[.field path]]⟩ body otherwise) =
      renderNodes policy ((dotName, v) :: env) body := by
    rw [renderNode, hvalue]
    exact if_pos hv
  have hredirects : Env.Redirects ⟨dotName, dotName, path⟩ ((dotName, v) :: env) env :=
    ⟨hpath.symm, fun name hname _ => if_neg fun heq => hname heq.symm⟩
  rw [hbody]
  exact renderNodes_redirect policy hredirects fun name _ hname => hname

/-- Field paths in a condition and in a loop get the path before them, and so does the alternative of the loop. The dot
in the body of the loop is the element. A value is missing, below the dot or below the path. -/
theorem focus_prefixes_paths_nested :
    ((Env.initial (.record [("User", .map [(.string "Name", .string "ann"), (.string "Tags", .list [.bool true])])])).get?
          dotName).bind (Value.lookup? ["User"]) =
        some (.map [(.string "Name", .string "ann"), (.string "Tags", .list [.bool true])]) ∧
      (Value.map [(.string "Name", .string "ann"), (.string "Tags", .list [.bool true])]).isTruthy = true ∧
      SameOutcome
        (renderNode .error
          (.initial (.record [("User", .map [(.string "Name", .string "ann"), (.string "Tags", .list [.bool true])])]))
          (.block .focus ⟨[], false, [[.field ["User"]]]⟩
            [.block .loop ⟨[], false, [[.field ["Tags"]]]⟩ [.action ⟨[], false, [[.dot]]⟩] [.action ⟨[], false, [[.dot]]⟩],
              .block .cond ⟨["$n"], false, [[.field ["Name"]]]⟩
                [.action ⟨[], false, [[.variable "$n" []]]⟩, .action ⟨[], false, [[.field ["Mail"]]]⟩] []]
            []))
        (renderNodes .error
          (.initial (.record [("User", .map [(.string "Name", .string "ann"), (.string "Tags", .list [.bool true])])]))
          [.block .loop ⟨[], false, [[.field ["User", "Tags"]]]⟩ [.action ⟨[], false, [[.dot]]⟩]
              [.action ⟨[], false, [[.field ["User"]]]⟩],
            .block .cond ⟨["$n"], false, [[.field ["User", "Name"]]]⟩
              [.action ⟨[], false, [[.variable "$n" []]]⟩, .action ⟨[], false, [[.field ["User", "Mail"]]]⟩] []]) :=
  ⟨rfl, rfl, focus_prefixes_paths (v := .map [(.string "Name", .string "ann"), (.string "Tags", .list [.bool true])])
    rfl rfl .error _ []⟩

end DynamicTemplate

end QueryTemplate
