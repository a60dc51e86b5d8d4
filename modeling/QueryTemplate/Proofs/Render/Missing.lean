import QueryTemplate.Proofs.Render.Policy

/-!
# The first missing value

A rendering that refuses missing values fails at the first action whose operand leads nowhere (`firstUnresolved?`), unless
it has failed for another reason before. The walk reports this operand as it is written. A compiled template has kept the
paths below the parameter only and reports those, so the name of the root is left out (`Operand.belowRoot`), and the two
reports differ exactly when the operand starts with it (`StaticTemplate.missing_value_reported`).
-/

namespace QueryTemplate

/-- The operand of an action that leads nowhere. -/
def Step.unresolved? : Step → Option Operand
  | .reference env operand =>
    match env.eval operand with
    | .ok none => some operand
    | _ => none
  | _ => none

/-- An action is executed with an operand that leads nowhere, after others with operands that lead somewhere. -/
def FirstUnresolved (steps : List Step) (operand : Operand) : Prop :=
  ∃ front env back, steps = front ++ .reference env operand :: back ∧ ¬Unresolved front ∧ env.eval operand = .ok none

/-- The operand of the first action whose operand leads nowhere. -/
def firstUnresolved? (steps : List Step) : Option Operand :=
  steps.findSome? Step.unresolved?

/-- The operand without the name of the root, for the root is the parameter. -/
def Operand.belowRoot : Operand → Operand
  | .variable name path => if name = rootName then .field path else .variable name path
  | operand => operand

namespace Step

theorem unresolved?_eq_some_iff {step : Step} {operand : Operand} :
    step.unresolved? = some operand ↔ ∃ env, step = .reference env operand ∧ env.eval operand = .ok none := by
  constructor
  · intro h
    rw [unresolved?.eq_def] at h
    split at h
    · split at h
      · cases h
        exact ⟨_, rfl, ‹_›⟩
      · cases h
    · cases h
  · rintro ⟨env, rfl, h⟩
    rw [unresolved?, h]

theorem isUnresolved_iff (step : Step) : step.IsUnresolved ↔ ∃ operand, step.unresolved? = some operand := by
  constructor
  · intro h
    cases step with
    | reference env operand => exact ⟨operand, unresolved?_eq_some_iff.mpr ⟨env, rfl, h⟩⟩
    | _ => exact h.elim
  · rintro ⟨operand, h⟩
    obtain ⟨env, rfl, heval⟩ := unresolved?_eq_some_iff.mp h
    exact heval

end Step

/-- The search finds the first one. -/
theorem firstUnresolved?_eq_some_iff {steps : List Step} {operand : Operand} :
    firstUnresolved? steps = some operand ↔ FirstUnresolved steps operand := by
  rw [firstUnresolved?, List.findSome?_eq_some_iff]
  constructor
  · rintro ⟨front, step, back, rfl, hstep, hfront⟩
    obtain ⟨env, rfl, heval⟩ := Step.unresolved?_eq_some_iff.mp hstep
    refine ⟨front, env, back, rfl, ?_, heval⟩
    rintro ⟨step, hmem, hunresolved⟩
    obtain ⟨operand', h⟩ := step.isUnresolved_iff.mp hunresolved
    rw [hfront step hmem] at h
    cases h
  · rintro ⟨front, env, back, rfl, hfront, heval⟩
    refine ⟨front, _, back, rfl, Step.unresolved?_eq_some_iff.mpr ⟨env, rfl, heval⟩, ?_⟩
    intro step hmem
    cases h : step.unresolved? with
    | none => rfl
    | some operand' => exact absurd ⟨step, hmem, step.isUnresolved_iff.mpr ⟨operand', h⟩⟩ hfront

/-! ## What is reported -/

/-- The error of a compiled template beside that of the walk of its nodes, where an operand is the first that leads nowhere. -/
inductive Reports (first : Option Operand) : Error → Error → Prop where
  | missing {operand : Operand} : first = some operand →
      Reports first (.missingValue operand.belowRoot.text) (.missingValue operand.text)
  | other {e : Error} : ¬e.IsMissing → Reports first e e

/-- The text without the name of the root is another text. -/
theorem Operand.text_belowRoot_iff (operand : Operand) :
    operand.belowRoot.text = operand.text ↔ ∀ path, operand ≠ .variable rootName path := by
  match operand with
  | .variable name path =>
    rw [belowRoot]
    split
    · rename_i hname
      subst hname
      constructor
      · intro h
        have hlength := congrArg String.length h
        simp only [text, String.length_append] at hlength
        have hroot : rootName.length = 1 := rfl
        omega
      · exact fun h => absurd rfl (h path)
    · rename_i hname
      refine ⟨fun _ path h => ?_, fun _ => rfl⟩
      cases h
      exact hname rfl
  | .bool _ | .number _ _ | .string _ | .nil | .dot | .field _ | .function _ | .group _ =>
    exact ⟨fun _ => nofun, fun _ => rfl⟩

namespace StaticTemplate

/-- The path that is kept for an operand is described as the operand without the name of the root. -/
theorem describe_of_pathOf {operand : Operand} {path : List String} (h : pathOf operand = .ok path) (hpath : path ≠ []) :
    describe path = operand.belowRoot.text := by
  have hdescribe : describe path = pathText path := by
    rw [describe, if_neg]
    rwa [List.isEmpty_iff]
  rw [hdescribe]
  match operand with
  | .dot => cases h; exact absurd rfl hpath
  | .field path' => cases h; rfl
  | .variable name path' =>
    rw [pathOf] at h
    split at h
    · rename_i hname
      cases h
      rw [Operand.belowRoot, if_pos hname]
      rfl
    · cases h
  | .bool _ | .number _ _ | .string _ | .nil | .function _ | .group _ => cases h

/-- A node and the part that it becomes fail with matching reports, and when they do not fail the node is no action whose
operand leads nowhere. -/
theorem ofNode_reports {node : Node} {part : StaticTemplate} (h : ofNode node = .ok part) (v : Value) :
    Alike (Reports ((Visit.step? ⟨.initial v, node⟩).bind Step.unresolved?))
      (fun r s => r = s ∧ (Visit.step? ⟨.initial v, node⟩).bind Step.unresolved? = none)
      (part.render ⟨.error⟩ v) (DynamicTemplate.renderNode .error (.initial v) node) := by
  cases node with
  | text s => cases h; exact Alike.ok ⟨rfl, rfl⟩
  | comment s => cases h; exact Alike.ok ⟨rfl, rfl⟩
  | action pipeline =>
    obtain ⟨operand, hoperand, h⟩ := bind_eq_ok.mp h
    rw [DynamicTemplate.renderNode]
    rw [ofOperand] at h
    cases htext : operand.literalText? with
    | some text =>
      have hstep : Visit.step? ⟨.initial v, .action pipeline⟩ = some (.literal text) :=
        Visit.step?_of_literal hoperand htext
      rw [htext] at h
      cases h
      rw [DynamicTemplate.renderAction_of_literal hoperand htext, hstep]
      exact Alike.ok ⟨rfl, rfl⟩
    | none =>
      have hstep : Visit.step? ⟨.initial v, .action pipeline⟩ = some (.reference (.initial v) operand) :=
        Visit.step?_of_reference hoperand htext
      rw [htext] at h
      obtain ⟨path, hpath, h⟩ := bind_eq_ok.mp h
      cases h
      have heval := eval_of_pathOf hpath v
      rw [DynamicTemplate.renderAction_of_reference hoperand htext heval, render_reference, hstep]
      simp only [Option.bind_some, Step.unresolved?, heval]
      cases hlookup : v.lookup? path with
      | some w =>
        rw [Value.extract, Value.extract]
        cases hw : w.toArgument with
        | ok a => exact Alike.ok ⟨rfl, rfl⟩
        | error e =>
          have hextract : Value.extract .error operand.text (some w) = .error e := hw
          have hmissing : ¬e.IsMissing := by
            intro he
            obtain ⟨-, hpolicy⟩ := Value.extract_isMissing hextract he
            cases hpolicy
          exact Alike.error (.other hmissing)
      | none =>
        have hne : path ≠ [] := by
          rintro rfl
          cases hlookup
        rw [describe_of_pathOf hpath hne]
        exact Alike.error (.missing rfl)
  | _ => cases h

/-- A list that compiles and its walk both render it, or fail with matching reports. -/
theorem compile_reports {nodes : List Node} {t : StaticTemplate} (h : compile nodes = .ok t) (v : Value) :
    Alike (Reports (firstUnresolved? (steps v nodes))) Eq (t.render ⟨.error⟩ v)
      (DynamicTemplate.render nodes ⟨.error⟩ v) := by
  induction nodes generalizing t with
  | nil =>
    cases h
    rw [DynamicTemplate.render, DynamicTemplate.renderNodes]
    exact Alike.ok rfl
  | cons node nodes ih =>
    obtain ⟨part, hpart, h⟩ := bind_eq_ok.mp h
    obtain ⟨rest, hrest, h⟩ := bind_eq_ok.mp h
    cases h
    have hfirst : firstUnresolved? (steps v (node :: nodes)) =
        ((Visit.step? ⟨.initial v, node⟩).bind Step.unresolved?).or (firstUnresolved? (steps v nodes)) := by
      rw [steps, List.filterMap_cons]
      cases Visit.step? ⟨.initial v, node⟩ with
      | none => rfl
      | some step =>
        rw [firstUnresolved?, List.findSome?_cons, Option.bind_some]
        cases step.unresolved? <;> rfl
    have hnode := ofNode_reports hpart v
    rw [render_append, DynamicTemplate.render, DynamicTemplate.renderNodes, hfirst]
    generalize part.render ⟨.error⟩ v = r, DynamicTemplate.renderNode .error (.initial v) node = s at hnode
    cases hnode with
    | ok hrs =>
      obtain ⟨rfl, hresolved⟩ := hrs
      rw [hresolved, Option.none_or]
      exact (ih hrest).bind fun a b hab => Alike.ok (by rw [hab])
    | error he =>
      cases he with
      | missing hoperand => exact Alike.error (.missing (by rw [hoperand, Option.some_or]))
      | other he => exact Alike.error (.other he)

/-- Where a compiled template or the walk of its nodes fails for a missing value, both do, at the first action whose
operand leads nowhere. The walk reports the operand as it is written, and the compiled template without the name of the
root; this is the same text unless the operand starts with that name. -/
theorem missing_value_reported {nodes : List Node} {t : StaticTemplate} (h : compile nodes = .ok t) (v : Value)
    (text : String) (hmissing : t.render ⟨.error⟩ v = .error (.missingValue text) ∨
      DynamicTemplate.render nodes ⟨.error⟩ v = .error (.missingValue text)) :
    ∃ operand, FirstUnresolved (steps v nodes) operand ∧
      t.render ⟨.error⟩ v = .error (.missingValue operand.belowRoot.text) ∧
      DynamicTemplate.render nodes ⟨.error⟩ v = .error (.missingValue operand.text) ∧
      (operand.belowRoot.text = operand.text ↔ ∀ path, operand ≠ .variable rootName path) := by
  have halike := compile_reports h v
  generalize t.render ⟨.error⟩ v = r, DynamicTemplate.render nodes ⟨.error⟩ v = s at halike hmissing
  cases halike with
  | ok hrs => rcases hmissing with h | h <;> cases h
  | error he =>
    cases he with
    | @missing operand hoperand =>
      exact ⟨operand, firstUnresolved?_eq_some_iff.mp hoperand, rfl, rfl, operand.text_belowRoot_iff⟩
    | other he => rcases hmissing with h | h <;> cases h <;> exact absurd rfl he

/-- The second of three actions is the first whose operand leads nowhere. -/
theorem missing_value_reported_second :
    (StaticTemplate.mk "???" [["A"], ["B", "c"], ["D"]]).render ⟨.error⟩ (.record [("A", .bool true), ("B", .null)]) =
      .error (.missingValue ".B.c") ∧
    ∃ operand,
      FirstUnresolved (steps (.record [("A", .bool true), ("B", .null)])
        [.action ⟨[], false, [[.field ["A"]]]⟩, .action ⟨[], false, [[.variable "$" ["B", "c"]]]⟩,
          .action ⟨[], false, [[.field ["D"]]]⟩]) operand ∧
      (StaticTemplate.mk "???" [["A"], ["B", "c"], ["D"]]).render ⟨.error⟩ (.record [("A", .bool true), ("B", .null)]) =
        .error (.missingValue operand.belowRoot.text) ∧
      DynamicTemplate.render
        [.action ⟨[], false, [[.field ["A"]]]⟩, .action ⟨[], false, [[.variable "$" ["B", "c"]]]⟩,
          .action ⟨[], false, [[.field ["D"]]]⟩] ⟨.error⟩ (.record [("A", .bool true), ("B", .null)]) =
        .error (.missingValue operand.text) ∧
      (operand.belowRoot.text = operand.text ↔ ∀ path, operand ≠ .variable rootName path) :=
  ⟨rfl, missing_value_reported rfl _ ".B.c" (.inl rfl)⟩

/-- There are nodes that compile to a template that does not report the operand as it is written. -/
theorem not_missing_value_reported :
    ¬∀ (nodes : List Node) (t : StaticTemplate) (v : Value) (text : String), compile nodes = .ok t →
      (t.render ⟨.error⟩ v = .error (.missingValue text) ∨
        DynamicTemplate.render nodes ⟨.error⟩ v = .error (.missingValue text)) →
      t.render ⟨.error⟩ v = .error (.missingValue text) ∧
        DynamicTemplate.render nodes ⟨.error⟩ v = .error (.missingValue text) ∧
        ∃ operand, FirstUnresolved (steps v nodes) operand ∧ text = operand.text := by
  intro h
  have hroot := h [.action ⟨[], false, [[.variable "$" ["A"]]]⟩] ⟨"?", [["A"]]⟩ (.map []) "$.A" rfl (.inr rfl)
  have htext : Error.missingValue ".A" = Error.missingValue "$.A" := Except.error.inj hroot.1
  revert htext
  decide

end StaticTemplate

end QueryTemplate
