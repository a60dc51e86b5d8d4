import QueryTemplate.Proofs.Render.Sequence
import QueryTemplate.Proofs.Value.Similar

/-!
# Queries depend on the shape of their parameter

The text of a query is decided by the template and by the shape of the parameter, never by what its scalars contain: two
similar parameters give the same text with as many arguments, or fail alike (`DynamicTemplate.render_similar`). The two
walks stay in environments that bind the same names to similar values.
-/

namespace QueryTemplate

/-- Errors of one variant. -/
def Error.SameVariant (e e' : Error) : Prop :=
  e.variant = e'.variant

/-- Parts of queries with the same text and as many arguments. -/
def Rendered.SameShape (r s : Rendered) : Prop :=
  r.query = s.query ∧ r.arguments.length = s.arguments.length

theorem Rendered.SameShape.refl (r : Rendered) : r.SameShape r :=
  ⟨rfl, rfl⟩

/-- Parts of one shape put together have one shape. -/
theorem Rendered.SameShape.append {a b c d : Rendered} (hab : a.SameShape b) (hcd : c.SameShape d) :
    (a ++ c).SameShape (b ++ d) := by
  constructor
  · rw [query_append, query_append, hab.1, hcd.1]
  · rw [arguments_append, arguments_append, List.length_append, List.length_append, hab.2, hcd.2]

namespace Value

/-- A scalar is bound as it is. -/
theorem toArgument_of_isScalar {v : Value} (h : v.isScalar = true) : v.toArgument = .ok v := by
  cases v with
  | bool b => rfl
  | number n => rfl
  | string s => rfl
  | _ => cases h

/-- Similar values are both bound, or both cannot be. -/
theorem Similar.toArgument {v w : Value} (h : Similar v w) :
    Alike Error.SameVariant (fun _ _ => True) v.toArgument w.toArgument := by
  refine content_induction (P := fun v w => Alike Error.SameVariant (fun _ _ => True) v.toArgument w.toArgument)
    (fun _ _ ih => ih) ?_ h
  intro v w h hv
  cases h with
  | unbindable message message' => exact Alike.error rfl
  | optional h => exact absurd rfl (hv _)
  | scalar hv hw h =>
    rw [toArgument_of_isScalar hv, toArgument_of_isScalar hw]
    exact Alike.ok trivial
  | _ => exact Alike.ok trivial

/-- What is found at similar places is extracted alike. -/
theorem Similar.extract {v w : Option Value} (h : Option.Rel Similar v w) (policy : MissingValue)
    (reference : String) :
    Alike Error.SameVariant (fun _ _ => True) (Value.extract policy reference v)
      (Value.extract policy reference w) := by
  cases h with
  | some h => exact h.toArgument
  | none =>
    cases policy with
    | null => exact Alike.ok trivial
    | error => exact Alike.error rfl

end Value

/-! ## Environments -/

namespace Env

/-- Environments that bind the same names to similar values. -/
def Similar (env env' : Env) : Prop :=
  ∀ name, Option.Rel Value.Similar (env.get? name) (env'.get? name)

namespace Similar

/-- Environments stay similar when similar values are bound to one name. -/
theorem bind {env env' : Env} (henv : Similar env env') {v w : Value} (h : Value.Similar v w) (name : String) :
    Similar (env.bind name v) (env'.bind name w) := by
  intro other
  rw [Env.get?, Env.get?, Env.bind, Env.bind, Value.field?, Value.field?]
  split
  · exact Option.Rel.some h
  · exact henv other

/-- Similar parameters start similar environments. -/
theorem initial {v w : Value} (h : Value.Similar v w) : Similar (Env.initial v) (Env.initial w) := by
  have hempty : Similar [] [] := fun _ => Option.Rel.none
  exact (hempty.bind h rootName).bind h dotName

/-- The variable of an `if` keeps environments similar. -/
theorem bindCond {env env' : Env} (henv : Similar env env') {v w : Option Value}
    (h : Option.Rel Value.Similar v w) (names : List String) :
    Similar (env.bindCond names v) (env'.bindCond names w) := by
  cases names with
  | nil => cases h <;> exact henv
  | cons name names =>
    cases h with
    | some h => exact henv.bind h name
    | none => exact henv

/-- The focus of a `with` keeps environments similar. -/
theorem bindFocus {env env' : Env} (henv : Similar env env') {v w : Value} (h : Value.Similar v w)
    (names : List String) : Similar (env.bindFocus names v) (env'.bindFocus names w) :=
  henv.bind h _

/-- The element of a loop keeps environments similar. -/
theorem bindElement {env env' : Env} (henv : Similar env env') {key key' v w : Value}
    (hkey : Value.Similar key key') (h : Value.Similar v w) (names : List String) :
    Similar (env.bindElement names key v) (env'.bindElement names key' w) := by
  match names with
  | [] => exact henv.bind h dotName
  | [name] => exact henv.bind h name
  | keyName :: name :: _ => exact (henv.bind hkey keyName).bind h name

/-- An operand stands for similar values in similar environments. -/
theorem eval {env env' : Env} (henv : Similar env env') (operand : Operand) :
    Alike Error.SameVariant (Option.Rel Value.Similar) (env.eval operand) (env'.eval operand) := by
  match operand with
  | .bool b => exact Alike.ok (Option.Rel.some (Value.Similar.refl _))
  | .number text n => exact Alike.ok (Option.Rel.some (Value.Similar.refl _))
  | .string s => exact Alike.ok (Option.Rel.some (Value.Similar.refl _))
  | .nil => exact Alike.ok (Option.Rel.some (Value.Similar.refl _))
  | .dot => exact Alike.ok (henv dotName)
  | .field path => exact Alike.ok (rel_bind (henv dotName) fun _ _ h => h.lookup? path)
  | .variable name path => exact Alike.ok (rel_bind (henv name) fun _ _ h => h.lookup? path)
  | .function name => exact Alike.error rfl
  | .group pipeline => exact Alike.error rfl

end Similar

end Env

/-! ## The two walks -/

namespace DynamicTemplate

/-- Two renderings that both succeed with one shape, or both fail with errors of one variant. -/
abbrev SameShape : Except Error Rendered → Except Error Rendered → Prop :=
  Alike Error.SameVariant Rendered.SameShape

/-- An outcome has its own shape. -/
theorem SameShape.refl (x : Except Error Rendered) : SameShape x x :=
  Alike.refl (E := Error.SameVariant) (fun _ => rfl) Rendered.SameShape.refl x

/-- Two parts rendered one after the other have one shape when each of them has. -/
theorem SameShape.append {a b c d : Except Error Rendered} (hab : SameShape a b) (hcd : SameShape c d) :
    SameShape (do return (← a) ++ (← c)) (do return (← b) ++ (← d)) :=
  hab.bind fun _ _ hfirst => hcd.bind fun _ _ hrest => Alike.ok (hfirst.append hrest)

/-- Renderings in sequence have one shape when each of them has. -/
theorem SameShape.concat {α β : Type} {R : α → β → Prop} {f : α → Except Error Rendered}
    {g : β → Except Error Rendered} (hfg : ∀ a b, R a b → SameShape (f a) (g b)) {xs : List α} {ys : List β}
    (h : List.Forall₂ R xs ys) : SameShape (concat f xs) (concat g ys) := by
  induction h with
  | nil => exact SameShape.refl _
  | cons hhead htail ih => exact (hfg _ _ hhead).append ih

/-- An action has one shape in similar environments. -/
theorem renderAction_similar (policy : MissingValue) {env env' : Env} (henv : Env.Similar env env')
    (pipeline : Pipeline) : SameShape (renderAction policy env pipeline) (renderAction policy env' pipeline) := by
  rw [renderAction, renderAction]
  cases Pipeline.outputOperand pipeline with
  | error e => exact Alike.error rfl
  | ok operand =>
    rw [ok_bind, ok_bind]
    cases operand.literalText? with
    | some text => exact SameShape.refl _
    | none =>
      refine (henv.eval operand).bind fun v w h => ?_
      exact (Value.Similar.extract h policy operand.text).bind fun _ _ _ => Alike.ok ⟨rfl, rfl⟩

/-- The pipeline of a block has similar values in similar environments. -/
theorem blockValue_similar {env env' : Env} (henv : Env.Similar env env') (pipeline : Pipeline) :
    Alike Error.SameVariant (Option.Rel Value.Similar) (blockValue env pipeline) (blockValue env' pipeline) := by
  rw [blockValue, blockValue]
  cases Pipeline.controlOperand pipeline with
  | error e => exact Alike.error rfl
  | ok operand => exact henv.eval operand

/-- Similar values of blocks hold alike. -/
theorem holds_similar {v w : Option Value} (h : Option.Rel Value.Similar v w) : holds v = holds w := by
  cases h with
  | some h => exact h.isTruthy
  | none => rfl

/-- Similar values of loops have similar elements. -/
theorem elements_similar {v w : Option Value} (h : Option.Rel Value.Similar v w) :
    Alike Error.SameVariant Value.Similar.Pairs (elements v) (elements w) := by
  rw [elements, elements]
  have hpairs := rel_bind h fun _ _ h => h.pairs?
  generalize v.bind Value.pairs? = pairs, w.bind Value.pairs? = pairs' at hpairs
  cases hpairs with
  | some h => exact Alike.ok h
  | none => exact Alike.error rfl

mutual

/-- A node has one shape in similar environments. -/
theorem renderNode_similar (policy : MissingValue) {env env' : Env} (henv : Env.Similar env env') (node : Node) :
    SameShape (renderNode policy env node) (renderNode policy env' node) := by
  match node with
  | .text s => rw [renderNode, renderNode]; exact SameShape.refl _
  | .action pipeline =>
    rw [renderNode, renderNode]
    exact renderAction_similar policy henv pipeline
  | .comment s => rw [renderNode, renderNode]; exact SameShape.refl _
  | .block .cond pipeline body otherwise =>
    rw [renderNode, renderNode]
    refine (blockValue_similar henv pipeline).bind fun v w h => ?_
    rw [holds_similar h]
    split
    · exact renderNodes_similar policy (henv.bindCond h pipeline.targets) body
    · exact renderNodes_similar policy henv otherwise
  | .block .loop pipeline body otherwise =>
    rw [renderNode, renderNode]
    refine (blockValue_similar henv pipeline).bind fun v w h => ?_
    refine (elements_similar h).bind fun pairs pairs' hpairs => ?_
    rw [hpairs.isEmpty]
    split
    · exact renderNodes_similar policy henv otherwise
    · refine SameShape.concat (fun p q hpq => ?_) hpairs
      exact renderNodes_similar policy (henv.bindElement hpq.1 hpq.2 pipeline.targets) body
  | .block .focus pipeline body otherwise =>
    rw [renderNode, renderNode]
    refine (blockValue_similar henv pipeline).bind fun v w h => ?_
    cases h with
    | none => exact renderNodes_similar policy henv otherwise
    | @some v w h =>
      show SameShape (if v.isTruthy then _ else _) (if w.isTruthy then _ else _)
      rw [h.isTruthy]
      split
      · exact renderNodes_similar policy (henv.bindFocus h pipeline.targets) body
      · exact renderNodes_similar policy henv otherwise
  | .breakLoop => rw [renderNode, renderNode]; exact SameShape.refl _
  | .continueLoop => rw [renderNode, renderNode]; exact SameShape.refl _
  | .template name argument => rw [renderNode, renderNode]; exact SameShape.refl _

/-- A list of nodes has one shape in similar environments. -/
theorem renderNodes_similar (policy : MissingValue) {env env' : Env} (henv : Env.Similar env env')
    (nodes : List Node) : SameShape (renderNodes policy env nodes) (renderNodes policy env' nodes) := by
  match nodes with
  | [] => rw [renderNodes, renderNodes]; exact SameShape.refl _
  | node :: nodes =>
    rw [renderNodes, renderNodes]
    exact (renderNode_similar policy henv node).append (renderNodes_similar policy henv nodes)

end

/-- Values never reach the text of a query. Similar parameters give queries with one text and as many arguments, or fail
with errors of one variant. -/
theorem render_similar (nodes : List Node) (options : Options) {v w : Value} (h : Value.Similar v w) :
    Alike Error.SameVariant Rendered.SameShape (render nodes options v) (render nodes options w) :=
  renderNodes_similar options.missingValue (Env.Similar.initial h) nodes

/-- A loop over two lists of numbers, and a name that tries to be a query. -/
theorem render_similar_loop :
    Value.Similar (.record [("Ids", .list [.ofNat 1, .ofNat 2]), ("Name", .string "a")])
        (.record [("Ids", .list [.ofNat 7, .ofNat 9]), ("Name", .string "' or 1 = 1")]) ∧
      Alike Error.SameVariant Rendered.SameShape
        (render [.block .loop ⟨[], false, [[.field ["Ids"]]]⟩ [.action ⟨[], false, [[.dot]]⟩, .text ", "] [],
            .action ⟨[], false, [[.field ["Name"]]]⟩] ⟨.error⟩
          (.record [("Ids", .list [.ofNat 1, .ofNat 2]), ("Name", .string "a")]))
        (render [.block .loop ⟨[], false, [[.field ["Ids"]]]⟩ [.action ⟨[], false, [[.dot]]⟩, .text ", "] [],
            .action ⟨[], false, [[.field ["Name"]]]⟩] ⟨.error⟩
          (.record [("Ids", .list [.ofNat 7, .ofNat 9]), ("Name", .string "' or 1 = 1")])) := by
  have hids : Value.Similar (.list [.ofNat 1, .ofNat 2]) (.list [.ofNat 7, .ofNat 9]) :=
    .list (.cons (.scalar rfl rfl rfl) (.cons (.scalar rfl rfl rfl) .nil))
  have hname : Value.Similar (.string "a") (.string "' or 1 = 1") := .scalar rfl rfl (by decide)
  have h : Value.Similar (.record [("Ids", .list [.ofNat 1, .ofNat 2]), ("Name", .string "a")])
      (.record [("Ids", .list [.ofNat 7, .ofNat 9]), ("Name", .string "' or 1 = 1")]) :=
    .record rfl (.cons hids (.cons hname .nil))
  exact ⟨h, render_similar _ ⟨.error⟩ h⟩

end DynamicTemplate

end QueryTemplate
