import Mathlib.Data.List.Forall2
import QueryTemplate.Proofs.Render.Reached
import QueryTemplate.Proofs.Value.Replaced
import QueryTemplate.Template

/-!
# Two runs of a template

A template is rendered twice, from two values. If the values are related by a congruence, that is if nothing that a
template does with values leads out of the relation (`Value.IsCongruence`), the two walks stay in related environments
and come to the same nodes: the first run fails where it cannot bind what the second binds, or else both have one query
with related arguments (`Compiled.render_paired`).
-/

namespace QueryTemplate

namespace Value

/-- A relation that literals are in and that paths, conditions and loops keep. -/
structure IsCongruence (R : Value → Value → Prop) : Prop where
  null : R .null .null
  bool : ∀ b, R (.bool b) (.bool b)
  number : ∀ n, R (.number n) (.number n)
  string : ∀ s, R (.string s) (.string s)
  get? : ∀ {v w}, R v w → ∀ name, Option.Rel R (v.get? name) (w.get? name)
  isTruthy : ∀ {v w}, R v w → v.isTruthy = w.isTruthy
  pairs? : ∀ {v w}, R v w → Option.Rel (List.Forall₂ fun p q => R p.1 q.1 ∧ R p.2 q.2) v.pairs? w.pairs?

namespace IsCongruence

variable {R : Value → Value → Prop}

/-- A path leads to related values. -/
theorem lookup? (hR : IsCongruence R) {v w : Value} (h : R v w) (path : List String) :
    Option.Rel R (v.lookup? path) (w.lookup? path) :=
  rel_lookup? hR.get? h path

end IsCongruence

end Value

/-- What two runs need: their values are related by a congruence, and what the second run binds follows what the first
binds. -/
structure RunsPaired (F : Error → Prop) (R A : Value → Value → Prop) (policy policy' : MissingValue) : Prop where
  congruence : Value.IsCongruence R
  extract : ∀ (reference : String) {x y : Option Value}, Option.Rel R x y →
    Follows F A (Value.extract policy reference x) (Value.extract policy' reference y)

/-! ## Environments -/

namespace Env

/-- Environments that bind the same names to related values. -/
def Paired (R : Value → Value → Prop) (env env' : Env) : Prop :=
  ∀ name, Option.Rel R (env.get? name) (env'.get? name)

namespace Paired

variable {R : Value → Value → Prop} {env env' : Env} {v w : Value}

/-- A name is bound to related values in both environments. -/
theorem bind (henv : Paired R env env') (h : R v w) (name : String) : Paired R (env.bind name v) (env'.bind name w) := by
  intro other
  show Option.Rel R (if name = other then some v else env.get? other) (if name = other then some w else env'.get? other)
  split
  · exact Option.Rel.some h
  · exact henv other

/-- The parameter is the dot and the root in both runs. -/
theorem initial (h : R v w) : Paired R (Env.initial v) (Env.initial w) := by
  have hempty : Paired R [] [] := fun _ => Option.Rel.none
  exact (hempty.bind h rootName).bind h dotName

/-- The variable of a condition is bound in both runs. -/
theorem bindCond (henv : Paired R env env') {x y : Option Value} (h : Option.Rel R x y) (names : List String) :
    Paired R (env.bindCond names x) (env'.bindCond names y) := by
  cases names with
  | nil => cases h <;> exact henv
  | cons name names =>
    cases h with
    | some h => exact henv.bind h name
    | none => exact henv

/-- The variables of a loop are bound to related keys and elements. -/
theorem bindElement (henv : Paired R env env') {key key' : Value} (hkey : R key key') (h : R v w) (names : List String) :
    Paired R (env.bindElement names key v) (env'.bindElement names key' w) := by
  match names with
  | [] => exact henv.bind h dotName
  | [name] => exact henv.bind h name
  | keyName :: name :: _ => exact (henv.bind hkey keyName).bind h name

/-- An operand stands for related values. -/
theorem eval (hR : Value.IsCongruence R) (henv : Paired R env env') (F : Error → Prop) (operand : Operand) :
    Follows F (Option.Rel R) (env.eval operand) (env'.eval operand) := by
  match operand with
  | .bool b => exact Follows.ok (Option.Rel.some (hR.bool b))
  | .number text n => exact Follows.ok (Option.Rel.some (hR.number n))
  | .string s => exact Follows.ok (Option.Rel.some (hR.string s))
  | .nil => exact Follows.ok (Option.Rel.some hR.null)
  | .dot => exact Follows.ok (henv dotName)
  | .field path => exact Follows.ok (rel_bind (henv dotName) fun _ _ h => hR.lookup? h path)
  | .variable name path => exact Follows.ok (rel_bind (henv name) fun _ _ h => hR.lookup? h path)
  | .function name => exact Follows.error _
  | .group pipeline => exact Follows.error _

end Paired

end Env

/-- Parts of queries with one text and related arguments. -/
structure Rendered.Paired (A : Value → Value → Prop) (r s : Rendered) : Prop where
  query : r.query = s.query
  arguments : List.Forall₂ A r.arguments s.arguments

namespace Rendered.Paired

variable {A : Value → Value → Prop}

/-- Text alone has no arguments to relate. -/
theorem ofText (s : String) : Rendered.Paired A (.ofText s) (.ofText s) :=
  ⟨rfl, List.Forall₂.nil⟩

/-- Parts are related one after the other. -/
theorem append {a b c d : Rendered} (hab : Rendered.Paired A a b) (hcd : Rendered.Paired A c d) :
    Rendered.Paired A (a ++ c) (b ++ d) := by
  constructor
  · rw [query_append, query_append, hab.query, hcd.query]
  · rw [arguments_append, arguments_append]
    exact List.rel_append hab.arguments hcd.arguments

end Rendered.Paired

/-! ## The two walks -/

namespace DynamicTemplate

variable {F : Error → Prop} {R A : Value → Value → Prop} {policy policy' : MissingValue} {env env' : Env}

/-- The value of a block is related in both runs, or both fail alike. -/
theorem blockValue_paired (hR : Value.IsCongruence R) (henv : Env.Paired R env env') (pipeline : Pipeline) :
    Follows F (Option.Rel R) (blockValue env pipeline) (blockValue env' pipeline) := by
  rw [blockValue, blockValue]
  cases Pipeline.controlOperand pipeline with
  | error e => exact Follows.error e
  | ok operand => exact henv.eval hR F operand

/-- Two related values have the same number of elements, related one by one. -/
theorem elements_paired (hR : Value.IsCongruence R) {x y : Option Value} (h : Option.Rel R x y) :
    Follows F (List.Forall₂ fun p q => R p.1 q.1 ∧ R p.2 q.2) (elements x) (elements y) := by
  have hpairs := rel_bind h fun _ _ h => hR.pairs? h
  rw [elements, elements]
  generalize x.bind Value.pairs? = pairs, y.bind Value.pairs? = pairs' at hpairs
  cases hpairs with
  | some h => exact Follows.ok h
  | none => exact Follows.error _

/-- A block has as many rounds in both runs, in related environments. -/
theorem rounds_paired (hR : Value.IsCongruence R) (henv : Env.Paired R env env') (kind : BlockKind)
    (pipeline : Pipeline) :
    Follows F (List.Forall₂ (Env.Paired R)) (rounds env kind pipeline) (rounds env' kind pipeline) := by
  have hvalue : Follows F (Option.Rel R) (blockValue env pipeline) (blockValue env' pipeline) :=
    blockValue_paired hR henv pipeline
  cases kind with
  | cond =>
    refine hvalue.bind fun x y hxy => Follows.ok ?_
    have hholds : holds x = holds y := by
      cases hxy with
      | some h => exact hR.isTruthy h
      | none => rfl
    rw [hholds]
    split
    · exact List.Forall₂.cons (henv.bindCond hxy pipeline.targets) List.Forall₂.nil
    · exact List.Forall₂.nil
  | loop =>
    refine (hvalue.bind fun x y hxy => elements_paired hR hxy).bind fun pairs pairs' hpairs => Follows.ok ?_
    rw [List.forall₂_map_left_iff, List.forall₂_map_right_iff]
    exact hpairs.imp fun _ _ h => henv.bindElement h.1 h.2 pipeline.targets
  | focus =>
    refine hvalue.bind fun x y hxy => ?_
    cases hxy with
    | none => exact Follows.ok List.Forall₂.nil
    | @some v w h =>
      show Follows F _ (.ok (if v.isTruthy then [_] else [])) (.ok (if w.isTruthy then [_] else []))
      rw [hR.isTruthy h]
      refine Follows.ok ?_
      split
      · exact List.Forall₂.cons (henv.bind h _) List.Forall₂.nil
      · exact List.Forall₂.nil

/-- Parts put together follow each other when each of them does. -/
theorem append_paired {a b c d : Except Error Rendered} (hab : Follows F (Rendered.Paired A) a b)
    (hcd : Follows F (Rendered.Paired A) c d) :
    Follows F (Rendered.Paired A) (do return (← a) ++ (← c)) (do return (← b) ++ (← d)) :=
  hab.bind fun _ _ hfirst => hcd.bind fun _ _ hrest => Follows.ok (hfirst.append hrest)

/-- What is rendered in sequence is related if the parts are. -/
theorem concat_paired {α β : Type} {S : α → β → Prop} {f : α → Except Error Rendered} {g : β → Except Error Rendered}
    (hfg : ∀ a b, S a b → Follows F (Rendered.Paired A) (f a) (g b)) {xs : List α} {ys : List β}
    (h : List.Forall₂ S xs ys) : Follows F (Rendered.Paired A) (concat f xs) (concat g ys) := by
  induction h with
  | nil => exact Follows.ok (.ofText "")
  | cons hhead htail ih => exact append_paired (hfg _ _ hhead) ih

/-- An action renders the same text or related arguments. -/
theorem renderAction_paired (hruns : RunsPaired F R A policy policy') (henv : Env.Paired R env env')
    (pipeline : Pipeline) :
    Follows F (Rendered.Paired A) (renderAction policy env pipeline) (renderAction policy' env' pipeline) := by
  rw [renderAction, renderAction]
  cases Pipeline.outputOperand pipeline with
  | error e => exact Follows.error e
  | ok operand =>
    rw [ok_bind, ok_bind]
    cases operand.literalText? with
    | some text => exact Follows.ok (.ofText text)
    | none =>
      refine (henv.eval hruns.congruence F operand).bind fun x y hxy => ?_
      refine (hruns.extract operand.text hxy).bind fun a b hab => Follows.ok ⟨rfl, ?_⟩
      exact List.Forall₂.cons hab List.Forall₂.nil

mutual

/-- A node is rendered in the second run as in the first. -/
theorem renderNode_paired (hruns : RunsPaired F R A policy policy') {env env' : Env} (henv : Env.Paired R env env')
    (node : Node) :
    Follows F (Rendered.Paired A) (renderNode policy env node) (renderNode policy' env' node) := by
  match node with
  | .text s =>
    rw [renderNode, renderNode]
    exact Follows.ok (.ofText s)
  | .comment s =>
    rw [renderNode, renderNode]
    exact Follows.ok (.ofText "")
  | .action pipeline =>
    rw [renderNode, renderNode]
    exact renderAction_paired hruns henv pipeline
  | .block kind pipeline body otherwise =>
    rw [renderNode_block, renderNode_block]
    refine (rounds_paired hruns.congruence henv kind pipeline).bind fun envs envs' henvs => ?_
    -- as many rounds in both runs, so either both render the alternative or both render the body
    cases henvs with
    | nil => exact renderNodes_paired hruns henv otherwise
    | cons hhead htail =>
      have hbody : ∀ e e' : Env, Env.Paired R e e' →
          Follows F (Rendered.Paired A) (renderNodes policy e body) (renderNodes policy' e' body) :=
        fun _ _ h => renderNodes_paired hruns h body
      exact concat_paired hbody (List.Forall₂.cons hhead htail)
  | .breakLoop | .continueLoop | .template _ _ =>
    rw [renderNode, renderNode]
    exact Follows.error _

/-- So is a list of nodes. -/
theorem renderNodes_paired (hruns : RunsPaired F R A policy policy') {env env' : Env} (henv : Env.Paired R env env')
    (nodes : List Node) :
    Follows F (Rendered.Paired A) (renderNodes policy env nodes) (renderNodes policy' env' nodes) := by
  match nodes with
  | [] =>
    rw [renderNodes, renderNodes]
    exact Follows.ok (.ofText "")
  | node :: nodes =>
    rw [renderNodes, renderNodes]
    exact append_paired (renderNode_paired hruns henv node) (renderNodes_paired hruns henv nodes)

end

end DynamicTemplate

/-! ## Both forms of templates -/

variable {F : Error → Prop} {R A : Value → Value → Prop}

/-- Arguments follow others if what is extracted at every path does. -/
theorem StaticTemplate.arguments_follow {policy policy' : MissingValue} {v w : Value}
    (h : ∀ path reference, Follows F A (Value.extract policy reference (v.lookup? path))
      (Value.extract policy' reference (w.lookup? path))) (paths : List (List String)) :
    Follows F (List.Forall₂ A) (arguments policy v paths) (arguments policy' w paths) := by
  induction paths with
  | nil => exact Follows.ok List.Forall₂.nil
  | cons path paths ih =>
    rw [arguments, arguments]
    refine (h path (describe path)).bind fun a b hab => ?_
    exact ih.bind fun as bs hrest => Follows.ok (List.Forall₂.cons hab hrest)

/-- A template is rendered from the second of two related values as from the first. -/
theorem Compiled.render_paired {options options' : Options}
    (hruns : RunsPaired F R A options.missingValue options'.missingValue) {v w : Value} (h : R v w) (c : Compiled) :
    Follows F (Rendered.Paired A) (c.render options v) (c.render options' w) := by
  cases c with
  | static template =>
    have hextract := fun path reference => hruns.extract reference (hruns.congruence.lookup? h path)
    exact (StaticTemplate.arguments_follow hextract template.paths).bind fun _ _ hargs => Follows.ok ⟨rfl, hargs⟩
  | dynamic nodes => exact DynamicTemplate.renderNodes_paired hruns (Env.Paired.initial h) nodes

end QueryTemplate
