import QueryTemplate.Proofs.Render.Paired
import QueryTemplate.Proofs.Render.Placeholders

/-!
# Missing values under both policies

The policy for missing values decides what an action binds when its operand leads nowhere, and nothing else. The walk
that refuses missing values and the walk that binds null for them are two runs from one value
(`RunsPaired.of_policies`), so they go together until the first comes to such an action. Only there is the error met that
a value is missing (`DynamicTemplate.unresolved_of_missing`), and a walk that refuses missing values does not get past it
(`Aligned.not_unresolved`). A compiled template does the same (`policy_decides_missing`).
-/

namespace QueryTemplate

/-- The error is that a value is missing. -/
def Error.IsMissing (e : Error) : Prop :=
  e.variant = .missingValue

theorem Error.isMissing_iff {e : Error} : e.IsMissing ↔ ∃ reference, e = .missingValue reference := by
  constructor
  · intro h
    cases e with
    | missingValue reference => exact ⟨reference, rfl⟩
    | _ => cases h
  · rintro ⟨reference, rfl⟩
    rfl

/-- Errors of one cause are for a missing value both or neither. -/
theorem Error.SameCause.isMissing_iff {e e' : Error} (h : e.SameCause e') : e.IsMissing ↔ e'.IsMissing := by
  rw [IsMissing, IsMissing, h.1]

/-- An action is executed with an operand that leads nowhere. -/
def Step.IsUnresolved : Step → Prop
  | .reference env operand => env.eval operand = .ok none
  | _ => False

/-- Some of the actions that are executed have operands that lead nowhere. -/
def Unresolved (steps : List Step) : Prop :=
  ∃ step ∈ steps, step.IsUnresolved

/-- How a rendering that refuses missing values (`error`) stands to the rendering that binds null for them (`null`),
where `unresolved` says that some action is executed with an operand that leads nowhere. -/
structure PolicyLaw (unresolved : Prop) (null error : Except Error Rendered) : Prop where
  /-- What is rendered without missing values is rendered in the same way with null for them. -/
  of_ok : ∀ r, error = .ok r → null = .ok r
  /-- An error without missing values stays that error, unless a value is missing before it is met. -/
  of_error : ∀ e, null = .error e → error = .error e ∨ ∃ reference, error = .error (.missingValue reference)
  /-- With null for them, missing values are no errors. -/
  never_missing : ∀ reference, null ≠ .error (.missingValue reference)
  /-- Nothing but such an operand is a missing value. -/
  missing : ∀ reference, error = .error (.missingValue reference) → unresolved
  /-- Where no value is missing, both come to the same. -/
  resolved : ∀ r, null = .ok r → ¬unresolved → error = .ok r
  /-- Where a value is missing, that is the error. -/
  unresolved : ∀ r, null = .ok r → unresolved → ∃ reference, error = .error (.missingValue reference)

/-! ## The two runs -/

/-- A value is treated like itself. -/
theorem Value.isCongruence_eq : IsCongruence Eq where
  null := rfl
  bool _ := rfl
  number _ := rfl
  string _ := rfl
  get? {v w} h name := by
    subst h
    cases v.get? name with
    | none => exact Option.Rel.none
    | some u => exact Option.Rel.some rfl
  isTruthy h := congrArg isTruthy h
  pairs? {v w} h := by
    subst h
    cases v.pairs? with
    | none => exact Option.Rel.none
    | some pairs => exact Option.Rel.some (List.forall₂_same.mpr fun _ _ => ⟨rfl, rfl⟩)

/-- The run that binds null for missing values binds what the run that refuses them binds. -/
theorem RunsPaired.of_policies : RunsPaired Error.IsMissing Eq Eq .error .null where
  congruence := Value.isCongruence_eq
  extract reference x y h := by
    cases h with
    | none =>
      have hmissing : Error.IsMissing (.missingValue reference) := rfl
      exact Follows.fails hmissing _
    | @some v w h =>
      subst h
      have hsame : Alike Eq Eq v.toArgument v.toArgument := Alike.refl (fun _ => rfl) (fun _ => rfl) _
      exact hsame.follows

/-- Paired parts with the same arguments are the same. -/
theorem Rendered.Paired.eq {r s : Rendered} (h : Rendered.Paired Eq r s) : r = s := by
  obtain ⟨query, arguments⟩ := r
  have harguments := h.arguments
  rw [List.forall₂_eq_eq_eq] at harguments
  exact congr (congrArg Rendered.mk h.query) harguments

/-- With null for missing values a template comes to what it comes to without, unless a value is missing. -/
theorem Compiled.render_policies (c : Compiled) (v : Value) :
    Follows Error.IsMissing Eq (c.render ⟨.error⟩ v) (c.render ⟨.null⟩ v) := by
  have hruns : RunsPaired Error.IsMissing Eq Eq (Options.mk .error).missingValue (Options.mk .null).missingValue :=
    RunsPaired.of_policies
  exact (c.render_paired hruns rfl).mono fun _ _ h => h.eq

/-! ## Where a value is missing -/

namespace Pipeline

theorem not_isMissing_of_singleOperand {p : Pipeline} {e : Error} (h : singleOperand p = .error e) : ¬e.IsMissing := by
  rw [singleOperand] at h
  split at h
  · cases h
    rintro ⟨⟩
  · rw [commandOperand.eq_def] at h
    split at h <;> cases h
    all_goals rintro ⟨⟩
  · cases h
    rintro ⟨⟩

theorem not_isMissing_of_controlOperand {p : Pipeline} {e : Error} (h : controlOperand p = .error e) :
    ¬e.IsMissing := by
  rw [controlOperand] at h
  split at h
  · cases h
    rintro ⟨⟩
  · exact not_isMissing_of_singleOperand h

theorem not_isMissing_of_outputOperand {p : Pipeline} {e : Error} (h : outputOperand p = .error e) : ¬e.IsMissing := by
  rw [outputOperand] at h
  split at h
  · cases h
    rintro ⟨⟩
  · split at h
    · cases h
      rintro ⟨⟩
    · exact not_isMissing_of_singleOperand h

end Pipeline

theorem Env.not_isMissing_of_eval {env : Env} {operand : Operand} {e : Error} (h : env.eval operand = .error e) :
    ¬e.IsMissing := by
  cases operand <;> cases h <;> rintro ⟨⟩

/-- An extraction fails for a missing value only where nothing is there and null is not bound instead. -/
theorem Value.extract_isMissing {policy : MissingValue} {reference : String} {v : Option Value} {e : Error}
    (h : extract policy reference v = .error e) (he : e.IsMissing) : policy = .error ∧ v = none := by
  cases v with
  | some v =>
    rw [extract, toArgument] at h
    split at h <;> cases h
    cases he
  | none =>
    cases policy with
    | null => cases h
    | error => exact ⟨rfl, rfl⟩

namespace DynamicTemplate

variable {policy : MissingValue} {env : Env} {e : Error}

theorem not_isMissing_of_blockValue {p : Pipeline} (h : blockValue env p = .error e) : ¬e.IsMissing := by
  rcases bind_eq_error.mp h with h | ⟨operand, -, h⟩
  · exact Pipeline.not_isMissing_of_controlOperand h
  · exact Env.not_isMissing_of_eval h

/-- A block whose value is missing has no rounds, or if it is a loop no elements, which is another error. -/
theorem not_isMissing_of_rounds {kind : BlockKind} {p : Pipeline} (h : rounds env kind p = .error e) :
    ¬e.IsMissing := by
  cases kind with
  | cond =>
    rcases bind_eq_error.mp h with h | ⟨v, -, h⟩
    · exact not_isMissing_of_blockValue h
    · cases h
  | loop =>
    rcases bind_eq_error.mp h with h | ⟨pairs, -, h⟩
    · rcases bind_eq_error.mp h with h | ⟨v, -, h⟩
      · exact not_isMissing_of_blockValue h
      · rw [elements] at h
        split at h <;> cases h
        rintro ⟨⟩
    · cases h
  | focus =>
    rcases bind_eq_error.mp h with h | ⟨v, -, h⟩
    · exact not_isMissing_of_blockValue h
    · cases v <;> cases h

/-- An action that fails for a missing value has an operand that leads nowhere. -/
theorem unresolved_of_renderAction {p : Pipeline} (h : renderAction policy env p = .error e) (he : e.IsMissing) :
    policy = .error ∧ ∃ step, Visit.step? ⟨env, .action p⟩ = some step ∧ step.IsUnresolved := by
  rcases bind_eq_error.mp h with h | ⟨operand, hoperand, h⟩
  · exact absurd he (Pipeline.not_isMissing_of_outputOperand h)
  · cases htext : operand.literalText? with
    | some text =>
      rw [htext] at h
      cases h
    | none =>
      rw [htext] at h
      rcases bind_eq_error.mp h with h | ⟨v, hv, h⟩
      · exact absurd he (Env.not_isMissing_of_eval h)
      · rcases bind_eq_error.mp h with h | ⟨_, -, h⟩
        · obtain ⟨rfl, rfl⟩ := Value.extract_isMissing h he
          exact ⟨rfl, .reference env operand, Visit.step?_of_reference hoperand htext, hv⟩
        · cases h

/-- A visit that fails for a missing value is to such an action. -/
theorem unresolved_of_renderVisit {visit : Visit} (h : renderVisit policy visit = .error e) (he : e.IsMissing) :
    policy = .error ∧ ∃ step, visit.step? = some step ∧ step.IsUnresolved := by
  obtain ⟨env, node⟩ := visit
  cases node with
  | text s => cases h
  | comment s => cases h
  | action p => exact unresolved_of_renderAction h he
  | block kind p body otherwise =>
    rw [renderVisit_block] at h
    rcases bind_eq_error.mp h with h | ⟨_, -, h⟩
    · exact absurd he (not_isMissing_of_rounds h)
    · cases h
  | _ =>
    cases h
    cases he

/-- A walk that fails for a missing value has come to an action with an operand that leads nowhere, and does not bind
null for it. -/
theorem unresolved_of_missing {nodes : List Node} {options : Options} {v : Value}
    (h : render nodes options v = .error e) (he : e.IsMissing) :
    options.missingValue = .error ∧ Unresolved (steps (.initial v) nodes) := by
  rw [render, renderNodes_eq_concat_visits, concat_eq_error_iff] at h
  obtain ⟨front, visit, rest, hvisits, -, h⟩ := h
  obtain ⟨hpolicy, step, hstep, hunresolved⟩ := unresolved_of_renderVisit h he
  refine ⟨hpolicy, step, List.mem_filterMap.mpr ⟨visit, ?_, hstep⟩, hunresolved⟩
  rw [hvisits]
  exact List.mem_append_right front List.mem_cons_self

end DynamicTemplate

/-- Steps with arguments, none of them null for a missing value, have operands that lead somewhere. -/
theorem Aligned.not_unresolved {steps : List Step} {r : Rendered} (h : Aligned .error steps r) : ¬Unresolved steps := by
  rintro ⟨step, hstep, hunresolved⟩
  cases step with
  | reference env operand =>
    have hbound : (env, operand) ∈ steps.filterMap Step.bound? := List.mem_filterMap.mpr ⟨_, hstep, rfl⟩
    obtain ⟨argument, -, v, hv, hextract⟩ := forall₂_exists_of_mem h.arguments hbound
    have hnone : v = none := Except.ok.inj (hv.symm.trans hunresolved)
    rw [hnone] at hextract
    cases hextract
  | _ => exact hunresolved

/-! ## Both forms of templates -/

namespace PolicyLaw

variable {unresolved : Prop} {null error : Except Error Rendered}

/-- The law follows from what holds of the two runs together and of each of them alone. -/
theorem of_follows (hfollows : Follows Error.IsMissing Eq error null) (hnull : ∀ e, null = .error e → ¬e.IsMissing)
    (hmissing : ∀ e, error = .error e → e.IsMissing → unresolved) (hok : ∀ r, error = .ok r → ¬unresolved) :
    PolicyLaw unresolved null error where
  of_ok r hr := by
    obtain ⟨s, hs, rfl⟩ := hfollows.ok_left hr
    exact hs
  of_error e he := by
    cases hfollows with
    | ok hrs => cases he
    | error e' => exact Or.inl he
    | fails he' _ =>
      obtain ⟨reference, rfl⟩ := Error.isMissing_iff.mp he'
      exact Or.inr ⟨reference, rfl⟩
  never_missing reference h := hnull _ h rfl
  missing reference h := hmissing _ h rfl
  resolved r hr hresolved := by
    -- the run without null may only have failed by itself, for a missing value
    rcases hfollows.ok_right hr with ⟨s, hs, rfl⟩ | ⟨e, he, hmissing'⟩
    · exact hs
    · exact absurd (hmissing e he hmissing') hresolved
  unresolved r hr hunresolved := by
    rcases hfollows.ok_right hr with ⟨s, hs, -⟩ | ⟨e, he, hmissing'⟩
    · exact absurd hunresolved (hok s hs)
    · obtain ⟨reference, rfl⟩ := Error.isMissing_iff.mp hmissing'
      exact ⟨reference, he⟩

end PolicyLaw

theorem DynamicTemplate.policyLaw (nodes : List Node) (v : Value) :
    PolicyLaw (Unresolved (steps (.initial v) nodes)) (render nodes ⟨.null⟩ v) (render nodes ⟨.error⟩ v) := by
  refine PolicyLaw.of_follows (Compiled.render_policies (.dynamic nodes) v) ?_ ?_ ?_
  · intro e h he
    cases (unresolved_of_missing h he).1
  · exact fun e h he => (unresolved_of_missing h he).2
  · exact fun r h => (aligned_of_render h).1.not_unresolved

namespace StaticTemplate

/-- The steps of a compiled template are those of the walk of its nodes. -/
theorem steps_of_compile {nodes : List Node} {t : StaticTemplate} (h : compile nodes = .ok t) (v : Value) :
    DynamicTemplate.steps (.initial v) nodes = steps v nodes := by
  rw [DynamicTemplate.steps, visitsAll_of_compile h, List.filterMap_map]
  rfl

/-- A compiled template fails for the causes for which the walk of its nodes fails. -/
theorem exists_sameCause {nodes : List Node} {t : StaticTemplate} (h : compile nodes = .ok t) {options : Options}
    {v : Value} {e : Error} (he : t.render options v = .error e) :
    ∃ e', DynamicTemplate.render nodes options v = .error e' ∧ e.SameCause e' := by
  have halike := compile_alike h options v
  rw [he] at halike
  generalize hwalk : DynamicTemplate.render nodes options v = walk at halike
  cases halike with
  | error hcause => exact ⟨_, rfl, hcause⟩

theorem policyLaw {nodes : List Node} {t : StaticTemplate} (h : compile nodes = .ok t) (v : Value) :
    PolicyLaw (Unresolved (steps v nodes)) (t.render ⟨.null⟩ v) (t.render ⟨.error⟩ v) := by
  refine PolicyLaw.of_follows (Compiled.render_policies (.static t) v) ?_ ?_ ?_
  · intro e he hmissing
    obtain ⟨e', he', hcause⟩ := exists_sameCause h he
    cases (DynamicTemplate.unresolved_of_missing he' (hcause.isMissing_iff.mp hmissing)).1
  · intro e he hmissing
    obtain ⟨e', he', hcause⟩ := exists_sameCause h he
    rw [← steps_of_compile h v]
    exact (DynamicTemplate.unresolved_of_missing he' (hcause.isMissing_iff.mp hmissing)).2
  · intro r hr
    obtain ⟨s, hs, -⟩ := (compile_alike h ⟨.error⟩ v).ok_left hr
    rw [← steps_of_compile h v]
    exact (DynamicTemplate.aligned_of_render hs).1.not_unresolved

end StaticTemplate

/-- A condition that leads nowhere does not hold, and a loop over what leads nowhere is refused, whatever the policy for
missing values. -/
theorem DynamicTemplate.renderNode_block_of_missing {env : Env} {pipeline : Pipeline}
    (h : blockValue env pipeline = .ok none) (policy : MissingValue) (body otherwise : List Node) :
    renderNode policy env (.block .cond pipeline body otherwise) = renderNodes policy env otherwise ∧
      renderNode policy env (.block .focus pipeline body otherwise) = renderNodes policy env otherwise ∧
      renderNode policy env (.block .loop pipeline body otherwise) = .error .invalidRangeValue := by
  refine ⟨?_, ?_, ?_⟩
  · rw [renderNode, h]
    rfl
  · rw [renderNode, h]
    rfl
  · rw [renderNode, h]
    rfl

/-- The policy for missing values only decides between null and an error for the arguments of actions. Without missing
values nothing is rendered that is not rendered in the same way with null for them; an error that is met with null is
met without, unless a value is missing before, and is never that a value is missing; and what is rendered with null is
rendered without, unless an action is executed whose operand leads nowhere, and then the error is that a value is
missing. This holds of the walk of every tree and of every compiled template, from every value. Conditions and loops do
not depend on the policy: where the value of a block leads nowhere, its alternative is rendered, but a loop is
refused. -/
theorem policy_decides_missing :
    (∀ (nodes : List Node) (v : Value),
      PolicyLaw (Unresolved (DynamicTemplate.steps (.initial v) nodes))
        (DynamicTemplate.render nodes ⟨.null⟩ v) (DynamicTemplate.render nodes ⟨.error⟩ v)) ∧
    (∀ (nodes : List Node) (t : StaticTemplate), StaticTemplate.compile nodes = .ok t → ∀ v : Value,
      PolicyLaw (Unresolved (StaticTemplate.steps v nodes)) (t.render ⟨.null⟩ v) (t.render ⟨.error⟩ v)) ∧
    (∀ (env : Env) (pipeline : Pipeline), DynamicTemplate.blockValue env pipeline = .ok none →
      ∀ (policy : MissingValue) (body otherwise : List Node),
        DynamicTemplate.renderNode policy env (.block .cond pipeline body otherwise) =
            DynamicTemplate.renderNodes policy env otherwise ∧
          DynamicTemplate.renderNode policy env (.block .focus pipeline body otherwise) =
            DynamicTemplate.renderNodes policy env otherwise ∧
          DynamicTemplate.renderNode policy env (.block .loop pipeline body otherwise) = .error .invalidRangeValue) :=
  ⟨DynamicTemplate.policyLaw, fun _ _ h v => StaticTemplate.policyLaw h v,
    fun _ _ h policy body otherwise => DynamicTemplate.renderNode_block_of_missing h policy body otherwise⟩

/-- An operand that leads nowhere counts in the branch that a condition takes, and not in the other branch. It counts in
a compiled template too. A loop over what leads nowhere is refused. -/
theorem policy_decides_missing_branch :
    (DynamicTemplate.render
          [.block .cond ⟨[], false, [[.field ["A"]]]⟩ [.action ⟨[], false, [[.field ["A"]]]⟩]
            [.action ⟨[], false, [[.field ["B"]]]⟩]] ⟨.error⟩ (.record [("A", .bool true)]) =
        .ok ⟨"?", [.bool true]⟩ ∧
      ∃ reference, DynamicTemplate.render
          [.block .cond ⟨[], false, [[.field ["A"]]]⟩ [.action ⟨[], false, [[.field ["A"]]]⟩]
            [.action ⟨[], false, [[.field ["B"]]]⟩]] ⟨.error⟩ (.record []) =
        .error (.missingValue reference)) ∧
    (∃ reference,
      (StaticTemplate.mk "?" [["B"]]).render ⟨.error⟩ (.record []) = .error (.missingValue reference)) ∧
    ∀ policy body otherwise,
      DynamicTemplate.renderNode policy (.initial .null) (.block .loop ⟨[], false, [[.field ["A"]]]⟩ body otherwise) =
        .error .invalidRangeValue := by
  obtain ⟨hdynamic, hstatic, hblock⟩ := policy_decides_missing
  refine ⟨⟨?_, ?_⟩, ?_, ?_⟩
  · refine (hdynamic _ (.record [("A", .bool true)])).resolved _ rfl ?_
    rintro ⟨step, hstep, hunresolved⟩
    cases List.mem_singleton.mp hstep
    cases hunresolved
  · exact (hdynamic _ (.record [])).unresolved ⟨"?", [.null]⟩ rfl ⟨_, List.mem_singleton.mpr rfl, rfl⟩
  · exact (hstatic [.action ⟨[], false, [[.field ["B"]]]⟩] _ rfl (.record [])).unresolved ⟨"?", [.null]⟩ rfl
      ⟨_, List.mem_singleton.mpr rfl, rfl⟩
  · exact fun policy body otherwise => (hblock _ _ rfl policy body otherwise).2.2

end QueryTemplate
