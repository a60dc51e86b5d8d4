import QueryTemplate.Proofs.Assembly.Accepted
import QueryTemplate.Proofs.Render.Flat
import QueryTemplate.Proofs.Render.Operand
import QueryTemplate.Proofs.Scope.Declared
import QueryTemplate.Template

/-!
# Templates without blocks that do not compile

If a list without blocks does not compile, the walk of it fails as well: with the error of the compilation, or earlier, for
an argument that cannot be bound. This holds of the trees of sources, in which no variable but the root is in scope as
long as the nodes compile. Together with the lists that compile this is the agreement of the two ways
(`StaticTemplate.agrees_with_walk`).
-/

namespace QueryTemplate

/-- The errors with which the extraction of an argument fails. -/
def Error.IsExtraction (e : Error) : Prop :=
  e.variant = .missingValue ∨ e.variant = .conversion

namespace StaticTemplate

/-! ## The first failure -/

/-- Every node of a list that compiles compiles. -/
theorem ofNode_of_compile {nodes : List Node} {t : StaticTemplate} (h : compile nodes = .ok t) :
    ∀ node ∈ nodes, ∃ part, ofNode node = .ok part := by
  induction nodes generalizing t with
  | nil => simp
  | cons node nodes ih =>
    obtain ⟨part, hpart, h⟩ := bind_eq_ok.mp h
    obtain ⟨rest, hrest, _⟩ := bind_eq_ok.mp h
    intro n hn
    rcases List.mem_cons.mp hn with rfl | hn
    · exact ⟨part, hpart⟩
    · exact ih hrest n hn

/-- A list does not compile because of the first of its nodes that does not. -/
theorem compile_eq_error {nodes : List Node} {e : Error} (h : compile nodes = .error e) :
    ∃ front cause rest, nodes = front ++ cause :: rest ∧ (∃ t, compile front = .ok t) ∧ ofNode cause = .error e := by
  induction nodes with
  | nil => cases h
  | cons node nodes ih =>
    rcases bind_eq_error.mp h with hnode | ⟨part, hpart, h⟩
    · exact ⟨[], node, nodes, rfl, ⟨_, rfl⟩, hnode⟩
    · rcases bind_eq_error.mp h with hnodes | ⟨_, _, h⟩
      · obtain ⟨front, cause, rest, rfl, ⟨t, ht⟩, hcause⟩ := ih hnodes
        exact ⟨node :: front, cause, rest, rfl, ⟨_, bind_eq_ok.mpr ⟨_, hpart, bind_eq_ok.mpr ⟨_, ht, rfl⟩⟩⟩, hcause⟩
      · cases h

/-- An extraction that fails fails with an extraction error. -/
theorem isExtraction_of_extract {policy : MissingValue} {reference : String} {v : Option Value} {e : Error}
    (h : Value.extract policy reference v = .error e) : e.IsExtraction := by
  cases v with
  | some v =>
    rw [Value.extract, Value.toArgument] at h
    split at h
    · cases h; exact Or.inr rfl
    · cases h
  | none =>
    cases policy with
    | null => cases h
    | error => cases h; exact Or.inl rfl

/-! ## What the walk refuses -/

/-- Nodes that compile leave the scope as it is. -/
theorem scope_of_compile {inLoop : Bool} {scope last : Scope} {nodes : List Node} {t : StaticTemplate}
    (haccepted : Accepted inLoop scope nodes last) (h : compile nodes = .ok t) : last = scope := by
  induction nodes generalizing scope t with
  | nil => cases haccepted; rfl
  | cons node nodes ih =>
    obtain ⟨part, hpart, h⟩ := bind_eq_ok.mp h
    obtain ⟨rest, hrest, _⟩ := bind_eq_ok.mp h
    cases haccepted with
    | text s haccepted => exact ih haccepted hrest
    | comment s haccepted => exact ih haccepted hrest
    | action hscope haccepted =>
      obtain ⟨operand, hoperand, _⟩ := bind_eq_ok.mp hpart
      obtain ⟨rfl, _⟩ := Scope.afterPipeline_of_outputOperand hoperand hscope
      exact ih haccepted hrest
    | _ => cases hpart

/-- An operand that may stand alone and is neither bound nor a literal is a variable other than the root. -/
theorem variable_of_ofOperand {operand : Operand} {e : Error} (halone : operand.standsAlone = true)
    (h : ofOperand operand = .error e) : ∃ name path, operand = .variable name path ∧ name ≠ rootName := by
  rw [ofOperand] at h
  split at h
  · cases h
  · rename_i hliteral
    have hpath : pathOf operand = .error e := by
      rcases bind_eq_error.mp h with hpath | ⟨_, _, h⟩
      · exact hpath
      · cases h
    rcases Operand.reference_of_standsAlone halone hliteral with rfl | ⟨path, rfl⟩ | ⟨name, path, rfl⟩
    · cases hpath
    · cases hpath
    · refine ⟨name, path, rfl, fun hname => ?_⟩
      rw [pathOf, if_pos hname] at hpath
      cases hpath

/-- Where only the root is in scope, a node that does not compile is refused by the walk with the same error. -/
theorem renderNode_of_refused {inLoop : Bool} {last : Scope} {cause : Node} {rest : List Node} {e : Error}
    (haccepted : Accepted inLoop [rootName] (cause :: rest) last) (hblock : cause.isBlock = false)
    (h : ofNode cause = .error e) (policy : MissingValue) (env : Env) :
    DynamicTemplate.renderNode policy env cause = .error e := by
  cases haccepted with
  | text s _ => cases h
  | comment s _ => cases h
  | block _ _ _ _ => cases hblock
  | action hscope _ =>
    rw [DynamicTemplate.renderNode]
    rcases bind_eq_error.mp h with hoperand | ⟨operand, hoperand, h⟩
    · rw [DynamicTemplate.renderAction, hoperand]
      rfl
    · obtain ⟨_, hvariable⟩ := Scope.afterPipeline_of_outputOperand hoperand hscope
      obtain ⟨_, halone⟩ := Pipeline.outputOperand_eq_ok.mp hoperand
      obtain ⟨name, path, hname, hroot⟩ := variable_of_ofOperand halone h
      exact absurd (List.mem_singleton.mp (hvariable name path hname)) hroot
  | _ => cases h; rw [DynamicTemplate.renderNode]; rfl

/-- A node that compiles and is not rendered is an action whose argument cannot be bound. -/
theorem unbound_of_ofNode {node : Node} {part : StaticTemplate} {policy : MissingValue} {v : Value} {e : Error}
    (h : ofNode node = .ok part) (he : DynamicTemplate.renderNode policy (.initial v) node = .error e) :
    (∃ pipeline, node = .action pipeline) ∧ e.IsExtraction := by
  cases node with
  | text s => rw [DynamicTemplate.renderNode] at he; cases he
  | comment s => rw [DynamicTemplate.renderNode] at he; cases he
  | action pipeline =>
    refine ⟨⟨pipeline, rfl⟩, ?_⟩
    obtain ⟨operand, hoperand, h⟩ := bind_eq_ok.mp h
    rw [DynamicTemplate.renderNode] at he
    rw [ofOperand] at h
    split at h
    · rename_i text htext
      rw [DynamicTemplate.renderAction_of_literal hoperand htext] at he
      cases he
    · rename_i htext
      obtain ⟨path, hpath, _⟩ := bind_eq_ok.mp h
      rw [DynamicTemplate.renderAction_of_reference hoperand htext (eval_of_pathOf hpath v)] at he
      rcases bind_eq_error.mp he with he | ⟨_, _, he⟩
      · exact isExtraction_of_extract he
      · cases he
  | _ => cases h

end StaticTemplate

/-! ## The two ways compared -/

/-- An argument of an action among the nodes cannot be bound, and what stands before the action is rendered. -/
def DynamicTemplate.Unbound (policy : MissingValue) (env : Env) (nodes : List Node) (e : Error) : Prop :=
  e.IsExtraction ∧ ∃ front pipeline rest, nodes = front ++ .action pipeline :: rest ∧
    (∃ r, renderNodes policy env front = .ok r) ∧ renderNode policy env (.action pipeline) = .error e

/-- The walk of a list that compiles fails only for an argument that cannot be bound. -/
theorem StaticTemplate.unbound_of_compile {nodes : List Node} {t : StaticTemplate} {policy : MissingValue} {v : Value}
    {e : Error} (h : compile nodes = .ok t) (he : DynamicTemplate.renderNodes policy (.initial v) nodes = .error e) :
    DynamicTemplate.Unbound policy (.initial v) nodes e := by
  rw [DynamicTemplate.renderNodes_eq_concat, DynamicTemplate.concat_eq_error_iff] at he
  obtain ⟨front, node, rest, hnodes, ⟨r, hr⟩, he⟩ := he
  obtain ⟨part, hpart⟩ := ofNode_of_compile h node (by simp [hnodes])
  obtain ⟨⟨pipeline, rfl⟩, hextraction⟩ := unbound_of_ofNode hpart he
  refine ⟨hextraction, front, pipeline, rest, hnodes, ⟨r, ?_⟩, he⟩
  rw [DynamicTemplate.renderNodes_eq_concat]
  exact hr

/-- Compiling and walking agree. A list that compiles comes to the same both ways, from every value and under every
policy. The tree of a source that has no block and does not compile is never rendered by the walk either: the walk fails
with the error of the compilation, which is that of the first node that does not compile, or for an argument of an
action before that node. -/
theorem StaticTemplate.agrees_with_walk :
    (∀ (nodes : List Node) (t : StaticTemplate), compile nodes = .ok t →
      ∀ (options : Options) (v : Value),
        Alike Error.SameCause Eq (t.render options v) (DynamicTemplate.render nodes options v)) ∧
    (∀ (source : String) (nodes : List Node) (e : Error), Node.parse source = .ok nodes →
      nodes.any Node.isBlock = false → compile nodes = .error e →
      ∃ front cause rest, nodes = front ++ cause :: rest ∧ (∃ t, compile front = .ok t) ∧ ofNode cause = .error e ∧
        ∀ (options : Options) (v : Value), DynamicTemplate.render nodes options v = .error e ∨
          ∃ e', DynamicTemplate.Unbound options.missingValue (.initial v) front e' ∧
            DynamicTemplate.render nodes options v = .error e') := by
  refine ⟨fun nodes t h options v => compile_alike h options v, ?_⟩
  intro source nodes e hparse hblocks hcompile
  obtain ⟨front, cause, rest, rfl, ⟨t, ht⟩, hcause⟩ := compile_eq_error hcompile
  refine ⟨front, cause, rest, rfl, ⟨t, ht⟩, hcause, fun options v => ?_⟩
  rw [DynamicTemplate.render, DynamicTemplate.renderNodes_append]
  cases hfront : DynamicTemplate.renderNodes options.missingValue (.initial v) front with
  | error e' => exact Or.inr ⟨e', unbound_of_compile ht hfront, rfl⟩
  | ok r =>
    left
    -- what stands before the cause compiles, so it has not brought a variable into scope
    obtain ⟨last, haccepted⟩ := accepted_of_parse hparse
    obtain ⟨mid, hmid, haccepted⟩ := haccepted.split
    rw [scope_of_compile hmid ht] at haccepted
    have hblock : cause.isBlock = false := by
      simp only [List.any_append, List.any_cons, Bool.or_eq_false_iff] at hblocks
      exact hblocks.2.1
    have hnode := renderNode_of_refused haccepted hblock hcause options.missingValue (.initial v)
    rw [DynamicTemplate.renderNodes, hnode]
    rfl

/-- Both parts at once: a reference through the root that leads nowhere, and a call after it. -/
theorem StaticTemplate.agrees_with_walk_on_missing :
    Alike Error.SameCause Eq
      ((StaticTemplate.mk "a = ?" [["A"]]).render ⟨.error⟩ (.record []))
      (DynamicTemplate.render [.text "a = ", .action ⟨[], false, [[.variable "$" ["A"]]]⟩] ⟨.error⟩ (.record [])) ∧
    ∃ front cause rest,
      [Node.action ⟨[], false, [[.field ["A"]]]⟩, .action ⟨[], false, [[.function "len", .field ["B"]]]⟩] =
        front ++ cause :: rest ∧
      (∃ t, compile front = .ok t) ∧ ofNode cause = .error .functionCall ∧
        ∀ (options : Options) (v : Value),
          DynamicTemplate.render
            [.action ⟨[], false, [[.field ["A"]]]⟩, .action ⟨[], false, [[.function "len", .field ["B"]]]⟩] options v =
              .error .functionCall ∨
          ∃ e', DynamicTemplate.Unbound options.missingValue (.initial v) front e' ∧
            DynamicTemplate.render
              [.action ⟨[], false, [[.field ["A"]]]⟩, .action ⟨[], false, [[.function "len", .field ["B"]]]⟩] options v =
                .error e' :=
  ⟨agrees_with_walk.1 _ _ (by rfl) ⟨.error⟩ (.record []),
    agrees_with_walk.2 "{{.A}}{{len .B}}" _ _ (by decide +kernel) (by rfl) (by rfl)⟩

end QueryTemplate
