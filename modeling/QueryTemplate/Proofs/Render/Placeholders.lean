import Mathlib.Data.List.Forall2
import QueryTemplate.Proofs.Render.Flat
import QueryTemplate.Proofs.Render.Operand
import QueryTemplate.Proofs.Render.Walk

/-!
# Placeholders and arguments

The text nodes and actions that a rendering executes, in order (`DynamicTemplate.steps`), and how the query and its
arguments come from them (`Aligned`): the query is the text of the steps, with a placeholder for each action whose
operand is no literal, and the arguments are those of these actions, each extracted in the environment of its own step.
-/

namespace QueryTemplate

/-- A text node or an action that is executed. -/
inductive Step where
  | text (s : String)
  /-- An action with a literal, by the text of the literal. -/
  | literal (s : String)
  /-- An action with any other operand, and the environment in which it is executed. -/
  | reference (env : Env) (operand : Operand)

namespace Step

/-- What a step adds to the query. -/
def queryText : Step → String
  | .text s => s
  | .literal s => s
  | .reference _ _ => placeholder

/-- The operand that a step binds, with its environment. -/
def bound? : Step → Option (Env × Operand)
  | .reference env operand => some (env, operand)
  | _ => none

end Step

/-- A literal as it stands in the query: a boolean and `nil` by their words, a number as it was written, and a string by its
content. -/
def Operand.spelledOut : Operand → String
  | .bool b => if b then "true" else "false"
  | .nil => "NULL"
  | .number spelling _ => spelling
  | .string s => s
  | .dot | .field _ | .variable _ _ | .function _ | .group _ => ""

/-- The step that a visit is. Comments are none, blocks are the steps of their lists, and an action is one if its pipeline is
nothing but a literal or a reference. -/
def Visit.step? : Visit → Option Step
  | ⟨_, .text s⟩ => some (.text s)
  | ⟨env, .action ⟨[], false, [[operand]]⟩⟩ =>
    if operand.isLiteral then some (.literal operand.spelledOut)
    else if operand.standsAlone then some (.reference env operand)
    else none
  | _ => none

/-- The steps of a rendering, in the order of the walk. -/
def DynamicTemplate.steps (env : Env) (nodes : List Node) : List Step :=
  (visitsAll env nodes).filterMap Visit.step?

/-- The argument is the value extracted for the operand in its environment. -/
def Binds (policy : MissingValue) (bound : Env × Operand) (argument : Value) : Prop :=
  ∃ v, bound.1.eval bound.2 = .ok v ∧ Value.extract policy bound.2.text v = .ok argument

/-- The query is the text of the steps, and the arguments are those of their operands, one for one. -/
structure Aligned (policy : MissingValue) (steps : List Step) (r : Rendered) : Prop where
  query : r.query = String.join (steps.map Step.queryText)
  arguments : List.Forall₂ (Binds policy) (steps.filterMap Step.bound?) r.arguments

/-! ## Steps and their contributions -/

/-- A member of the first of two related lists has its partner in the second. -/
theorem forall₂_exists_of_mem {α β : Type} {R : α → β → Prop} {xs : List α} {ys : List β} (h : List.Forall₂ R xs ys)
    {x : α} (hx : x ∈ xs) : ∃ y ∈ ys, R x y := by
  induction h with
  | nil => cases hx
  | @cons first y xs ys hhead _ ih =>
    rcases List.mem_cons.mp hx with rfl | hx
    · exact ⟨y, List.mem_cons_self, hhead⟩
    · obtain ⟨z, hz, hxz⟩ := ih hx
      exact ⟨z, List.mem_cons_of_mem y hz, hxz⟩

theorem Aligned.nil (policy : MissingValue) : Aligned policy [] .empty :=
  ⟨rfl, List.Forall₂.nil⟩

/-- Steps after steps contribute after what these contribute. -/
theorem Aligned.append {policy : MissingValue} {xs ys : List Step} {a b : Rendered} (ha : Aligned policy xs a)
    (hb : Aligned policy ys b) : Aligned policy (xs ++ ys) (a ++ b) := by
  constructor
  · rw [Rendered.query_append, ha.query, hb.query, List.map_append, String.join_append]
  · rw [Rendered.arguments_append, List.filterMap_append]
    exact List.rel_append ha.arguments hb.arguments

/-- A step that binds nothing contributes its text. -/
theorem Aligned.fixed (policy : MissingValue) (step : Step) (h : step.bound? = none) :
    Aligned policy [step] (.ofText step.queryText) := by
  constructor
  · simp [Rendered.ofText]
  · simp [h, Rendered.ofText]

/-- A step that binds an operand contributes a placeholder and the argument. -/
theorem Aligned.reference {policy : MissingValue} {env : Env} {operand : Operand} {argument : Value}
    (h : Binds policy (env, operand) argument) : Aligned policy [.reference env operand] (.ofArgument argument) := by
  constructor
  · simp [Rendered.ofArgument, Step.queryText]
  · exact List.Forall₂.cons h List.Forall₂.nil

/-- An operand that may stand alone is evaluated. -/
theorem Env.eval_of_standsAlone {operand : Operand} (h : operand.standsAlone = true) (env : Env) :
    ∃ v, env.eval operand = .ok v := by
  cases operand with
  | function name => cases h
  | group pipeline => cases h
  | _ => exact ⟨_, rfl⟩

/-- The text by which the renderer writes an operand is there for the literals alone, and it is the literal spelled out. -/
theorem Operand.literalText?_eq_some_iff {operand : Operand} {s : String} :
    operand.literalText? = some s ↔ operand.isLiteral = true ∧ s = operand.spelledOut := by
  cases operand with
  | bool b => cases b <;> simp [literalText?, isLiteral, spelledOut, eq_comm]
  | _ => simp [literalText?, isLiteral, spelledOut, eq_comm]

theorem Operand.literalText?_eq_none_iff {operand : Operand} : operand.literalText? = none ↔ operand.isLiteral = false := by
  rw [isLiteral_eq_isSome, Option.isSome_eq_false_iff, Option.isNone_iff_eq_none]

/-- An action with a literal is the step of the literal. -/
theorem Visit.step?_of_literal {env : Env} {pipeline : Pipeline} {operand : Operand} {s : String}
    (hoperand : pipeline.outputOperand = .ok operand) (hs : operand.literalText? = some s) :
    step? ⟨env, .action pipeline⟩ = some (.literal s) := by
  obtain ⟨rfl, -⟩ := Pipeline.outputOperand_eq_ok.mp hoperand
  obtain ⟨hliteral, rfl⟩ := Operand.literalText?_eq_some_iff.mp hs
  exact if_pos hliteral

/-- An action with a reference is the step of the reference. -/
theorem Visit.step?_of_reference {env : Env} {pipeline : Pipeline} {operand : Operand}
    (hoperand : pipeline.outputOperand = .ok operand) (hnone : operand.literalText? = none) :
    step? ⟨env, .action pipeline⟩ = some (.reference env operand) := by
  obtain ⟨rfl, halone⟩ := Pipeline.outputOperand_eq_ok.mp hoperand
  have hliteral : operand.isLiteral = false := Operand.literalText?_eq_none_iff.mp hnone
  exact (if_neg (Bool.eq_false_iff.mp hliteral)).trans (if_pos halone)

/-- What an action contributes is the contribution of its step. -/
theorem Aligned.of_renderAction {policy : MissingValue} {env : Env} {pipeline : Pipeline} {part : Rendered}
    (h : DynamicTemplate.renderAction policy env pipeline = .ok part) :
    Aligned policy (Visit.step? ⟨env, .action pipeline⟩).toList part := by
  obtain ⟨operand, hoperand, _⟩ := bind_eq_ok.mp h
  obtain ⟨v, hv⟩ := Env.eval_of_standsAlone (Pipeline.outputOperand_eq_ok.mp hoperand).2 env
  cases htext : operand.literalText? with
  | some s =>
    rw [DynamicTemplate.renderAction_of_literal hoperand htext] at h
    cases h
    rw [Visit.step?_of_literal hoperand htext]
    exact Aligned.fixed policy (.literal s) rfl
  | none =>
    rw [DynamicTemplate.renderAction_of_reference hoperand htext hv] at h
    obtain ⟨argument, hargument, h⟩ := bind_eq_ok.mp h
    cases h
    rw [Visit.step?_of_reference hoperand htext]
    exact Aligned.reference ⟨v, hv, hargument⟩

/-- What a visit contributes is the contribution of its step. -/
theorem Aligned.of_renderVisit {policy : MissingValue} {visit : Visit} {part : Rendered}
    (h : DynamicTemplate.renderVisit policy visit = .ok part) : Aligned policy visit.step?.toList part := by
  obtain ⟨env, node⟩ := visit
  cases node with
  | text s => cases h; exact Aligned.fixed policy (.text s) rfl
  | action pipeline => exact Aligned.of_renderAction h
  | comment s => cases h; exact Aligned.nil policy
  | block kind pipeline body otherwise =>
    cases kind <;>
    · obtain ⟨_, _, h⟩ := bind_eq_ok.mp h
      cases h
      exact Aligned.nil policy
  | _ => cases h

/-- What visits contribute in sequence is the contribution of their steps. -/
theorem Aligned.of_visits {policy : MissingValue} {visits : List Visit} {r : Rendered}
    (h : DynamicTemplate.concat (DynamicTemplate.renderVisit policy) visits = .ok r) :
    Aligned policy (visits.filterMap Visit.step?) r := by
  induction visits generalizing r with
  | nil => cases h; exact Aligned.nil policy
  | cons visit visits ih =>
    obtain ⟨first, hfirst, h⟩ := bind_eq_ok.mp h
    obtain ⟨rest, hrest, h⟩ := bind_eq_ok.mp h
    cases h
    have hsteps : (visit :: visits).filterMap Visit.step? = visit.step?.toList ++ visits.filterMap Visit.step? := by
      cases hstep : visit.step? <;> simp [hstep]
    rw [hsteps]
    exact (Aligned.of_renderVisit hfirst).append (ih hrest)

/-! ## The texts of a tree -/

/-- The literals in a pipeline as they stand in the query, those in parentheses included. -/
def Pipeline.literalTexts (p : Pipeline) : List String :=
  ((Operand.outlinePipeline p).filter Operand.isLiteral).map Operand.spelledOut

/-- An operand is the first of its own outline. -/
theorem Operand.mem_outline (operand : Operand) : operand ∈ operand.outline := by
  cases operand <;> simp [Operand.outline]

/-- A literal that is the operand of a pipeline is a literal of the pipeline. -/
theorem Pipeline.mem_literalTexts {operand : Operand} (h : operand.isLiteral = true) :
    operand.spelledOut ∈ literalTexts ⟨[], false, [[operand]]⟩ := by
  refine List.mem_map_of_mem (List.mem_filter.mpr ⟨?_, h⟩)
  simp [Operand.outlinePipeline, Operand.outlineCommands, Operand.outlineCommand, Operand.mem_outline]

namespace Node

mutual

/-- The text nodes and literal texts of a node. -/
def texts : Node → List String
  | .text s => [s]
  | .action pipeline => Pipeline.literalTexts pipeline
  | .block _ pipeline body otherwise => Pipeline.literalTexts pipeline ++ (textsAll body ++ textsAll otherwise)
  | .template _ (some pipeline) => Pipeline.literalTexts pipeline
  | _ => []

/-- The text nodes and literal texts of a list of nodes. -/
def textsAll : List Node → List String
  | [] => []
  | node :: nodes => texts node ++ textsAll nodes

end

end Node

namespace DynamicTemplate

mutual

/-- The texts of the nodes that the walk comes to are texts of the tree. -/
theorem texts_of_mem_visits {env : Env} {node : Node} {visit : Visit} (h : visit ∈ visits env node) :
    ∀ s ∈ visit.node.texts, s ∈ node.texts := by
  match node with
  | .block kind pipeline body otherwise =>
    intro s hs
    rw [Node.texts, List.mem_append, List.mem_append]
    rcases mem_visits_block h with rfl | ⟨env', h⟩ | h
    · rw [Node.texts, List.mem_append, List.mem_append] at hs
      exact hs
    · exact Or.inr (Or.inl (texts_of_mem_visitsAll h s hs))
    · exact Or.inr (Or.inr (texts_of_mem_visitsAll h s hs))
  | .text _ | .action _ | .comment _ | .breakLoop | .continueLoop | .template _ _ =>
    rw [visits_of_not_block rfl, List.mem_singleton] at h
    rw [h]
    exact fun s hs => hs

/-- The texts of the nodes that the walk comes to are texts of the list. -/
theorem texts_of_mem_visitsAll {env : Env} {nodes : List Node} {visit : Visit} (h : visit ∈ visitsAll env nodes) :
    ∀ s ∈ visit.node.texts, s ∈ Node.textsAll nodes := by
  match nodes with
  | [] => cases h
  | node :: nodes =>
    intro s hs
    rw [Node.textsAll, List.mem_append]
    rw [visitsAll, List.mem_append] at h
    rcases h with h | h
    · exact Or.inl (texts_of_mem_visits h s hs)
    · exact Or.inr (texts_of_mem_visitsAll h s hs)

end

end DynamicTemplate

/-- The text of a step is a text of the node that it executes. -/
theorem Visit.mem_texts_of_step? {visit : Visit} {step : Step} (h : visit.step? = some step)
    (hbound : step.bound? = none) : step.queryText ∈ visit.node.texts := by
  rw [step?.eq_def] at h
  split at h
  · cases h
    exact List.mem_singleton.mpr rfl
  · split at h
    · rename_i hliteral
      cases h
      exact Pipeline.mem_literalTexts hliteral
    · split at h
      · cases h
        cases hbound
      · cases h
  · cases h

/-- If no text of the steps holds the character of the placeholder, the query holds it once for each operand that is
bound. -/
theorem count_placeholder {steps : List Step}
    (h : ∀ step ∈ steps, step.bound? = none → '?' ∉ step.queryText.toList) :
    (String.join (steps.map Step.queryText)).toList.count '?' = (steps.filterMap Step.bound?).length := by
  induction steps with
  | nil => rfl
  | cons step steps ih =>
    have hrest := ih fun x hx => h x (List.mem_cons_of_mem step hx)
    rw [List.map_cons, String.join_cons, String.toList_append, List.count_append, hrest]
    cases hbound : step.bound? with
    | none =>
      have hstep := h step List.mem_cons_self hbound
      rw [List.count_eq_zero.mpr hstep, List.filterMap_cons_none hbound, Nat.zero_add]
    | some bound =>
      have hstep : step.queryText.toList.count '?' = 1 := by
        cases step with
        | reference env operand => show placeholder.toList.count '?' = 1; decide
        | _ => cases hbound
      rw [hstep, List.filterMap_cons_some hbound, List.length_cons, Nat.add_comm]

/-- Where no text holds the character of the placeholder, it stands in the query once for each argument. -/
theorem Aligned.count_placeholder {policy : MissingValue} {visits : List Visit} {r : Rendered} {texts : List String}
    (h : Aligned policy (visits.filterMap Visit.step?) r)
    (htexts : ∀ visit ∈ visits, ∀ s ∈ visit.node.texts, s ∈ texts) (hmark : ∀ s ∈ texts, '?' ∉ s.toList) :
    r.query.toList.count '?' = r.arguments.length := by
  rw [h.query, QueryTemplate.count_placeholder, h.arguments.length_eq]
  intro step hstep hbound
  obtain ⟨visit, hvisit, hstep⟩ := List.mem_filterMap.mp hstep
  exact hmark _ (htexts visit hvisit _ (Visit.mem_texts_of_step? hstep hbound))

/-! ## Both ways of rendering -/

/-- The steps of a compiled template: its text nodes and actions, with the parameter as the dot and the root. -/
def StaticTemplate.steps (v : Value) (nodes : List Node) : List Step :=
  nodes.filterMap fun node => Visit.step? ⟨.initial v, node⟩

/-- A list that compiles is walked from node to node. -/
theorem StaticTemplate.visitsAll_of_compile {nodes : List Node} {t : StaticTemplate} (h : compile nodes = .ok t)
    (env : Env) : DynamicTemplate.visitsAll env nodes = nodes.map (Visit.mk env) := by
  induction nodes generalizing t with
  | nil => rfl
  | cons node nodes ih =>
    obtain ⟨part, hpart, h⟩ := bind_eq_ok.mp h
    obtain ⟨rest, hrest, _⟩ := bind_eq_ok.mp h
    have hblock : node.isBlock = false := by
      cases node with
      | block kind pipeline body otherwise => cases hpart
      | _ => rfl
    rw [DynamicTemplate.visitsAll, DynamicTemplate.visits_of_not_block hblock, ih hrest]
    rfl

/-- A walk that succeeds is aligned with the steps that it executes. -/
theorem DynamicTemplate.aligned_of_render {nodes : List Node} {options : Options} {v : Value} {r : Rendered}
    (h : render nodes options v = .ok r) :
    Aligned options.missingValue (steps (.initial v) nodes) r ∧
      ((∀ s ∈ Node.textsAll nodes, '?' ∉ s.toList) → r.query.toList.count '?' = r.arguments.length) := by
  rw [render, renderNodes_eq_concat_visits] at h
  have haligned := Aligned.of_visits h
  exact ⟨haligned, haligned.count_placeholder fun visit hvisit => texts_of_mem_visitsAll hvisit⟩

/-- Placeholders and arguments are aligned. Whenever a walk succeeds, the query is the text of the steps that it executes,
across the branches taken and all rounds of all loops, with a placeholder for each operand that is bound, and the
arguments are the values of these operands, each in the environment of its step, one for one. Where no text of the tree
holds the character of the placeholder, it stands in the query once for each argument. A compiled template does the same
with the nodes that it was compiled from. -/
theorem placeholders_aligned :
    (∀ (nodes : List Node) (options : Options) (v : Value) (r : Rendered),
      DynamicTemplate.render nodes options v = .ok r →
      Aligned options.missingValue (DynamicTemplate.steps (.initial v) nodes) r ∧
        ((∀ s ∈ Node.textsAll nodes, '?' ∉ s.toList) → r.query.toList.count '?' = r.arguments.length)) ∧
    (∀ (nodes : List Node) (t : StaticTemplate), StaticTemplate.compile nodes = .ok t →
      ∀ (options : Options) (v : Value) (r : Rendered), t.render options v = .ok r →
      Aligned options.missingValue (StaticTemplate.steps v nodes) r ∧
        ((∀ s ∈ Node.textsAll nodes, '?' ∉ s.toList) → r.query.toList.count '?' = r.arguments.length)) := by
  refine ⟨fun nodes options v r h => DynamicTemplate.aligned_of_render h, ?_⟩
  intro nodes t ht options v r h
  have hrender : DynamicTemplate.render nodes options v = .ok r := by
    obtain ⟨r', hr', rfl⟩ := (StaticTemplate.compile_alike ht options v).ok_left h
    exact hr'
  have hsteps : DynamicTemplate.steps (.initial v) nodes = StaticTemplate.steps v nodes := by
    rw [DynamicTemplate.steps, StaticTemplate.visitsAll_of_compile ht, List.filterMap_map]
    rfl
  exact hsteps ▸ DynamicTemplate.aligned_of_render hrender

/-- Both ways at once: a loop over two elements with a condition, literals and a comment in its body, and a compiled comparison
with a literal beside it. -/
theorem placeholders_aligned_in_loop :
    ("(?, 1_0, NULL), (?, 1_0, NULL)".toList.count '?' = 2 ∧
      Aligned .null
        (DynamicTemplate.steps (.initial (.record [("Ids", .list [.string "a", .string "b"])]))
          [.block .loop ⟨["$i", "$e"], false, [[.field ["Ids"]]]⟩
            [.block .cond ⟨[], false, [[.variable "$i" []]]⟩ [.text ", "] [],
              .text "(", .action ⟨[], false, [[.variable "$e" []]]⟩, .action ⟨[], false, [[.string ", "]]⟩,
              .action ⟨[], false, [[.number "1_0" (.int 10)]]⟩, .comment "c", .text ", ",
              .action ⟨[], false, [[.nil]]⟩, .text ")"] []])
        ⟨"(?, 1_0, NULL), (?, 1_0, NULL)", [.string "a", .string "b"]⟩) ∧
    ("x = ? OR true".toList.count '?' = 1 ∧
      Aligned .null
        (StaticTemplate.steps (.record [("A", .bool true)])
          [.text "x = ", .action ⟨[], false, [[.field ["A"]]]⟩, .text " OR ", .action ⟨[], false, [[.bool true]]⟩])
        ⟨"x = ? OR true", [.bool true]⟩) :=
  have hwalk := placeholders_aligned.1
    [.block .loop ⟨["$i", "$e"], false, [[.field ["Ids"]]]⟩
      [.block .cond ⟨[], false, [[.variable "$i" []]]⟩ [.text ", "] [],
        .text "(", .action ⟨[], false, [[.variable "$e" []]]⟩, .action ⟨[], false, [[.string ", "]]⟩,
        .action ⟨[], false, [[.number "1_0" (.int 10)]]⟩, .comment "c", .text ", ",
        .action ⟨[], false, [[.nil]]⟩, .text ")"] []]
    .default (.record [("Ids", .list [.string "a", .string "b"])])
    ⟨"(?, 1_0, NULL), (?, 1_0, NULL)", [.string "a", .string "b"]⟩ (by rfl)
  have hstatic := placeholders_aligned.2
    [.text "x = ", .action ⟨[], false, [[.field ["A"]]]⟩, .text " OR ", .action ⟨[], false, [[.bool true]]⟩]
    ⟨"x = ? OR true", [["A"]]⟩ (by rfl) .default (.record [("A", .bool true)]) ⟨"x = ? OR true", [.bool true]⟩ (by rfl)
  ⟨⟨hwalk.2 (by decide), hwalk.1⟩, ⟨hstatic.2 (by decide), hstatic.1⟩⟩

end QueryTemplate
