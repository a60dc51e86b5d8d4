import QueryTemplate.Proofs.Render.WellFormed

/-!
# Unsupported constructs

A construct that does not become SQL is refused, and never rendered as something else. Which nodes are unsupported is
said by their form alone (`Node.IsUnsupported`), and so is the reason for which a node is refused, the first of several
that applies (`Node.refusal?`). A template with an unsupported node at its top level is not built when it has no block,
and otherwise never rendered; and no walk that succeeds has come to an unsupported node
(`Template.never_renders_unsupported`).
-/

namespace QueryTemplate

/-! ## Forms and reasons -/

namespace Pipeline

/-- The forms of pipelines that are supported nowhere: an assignment, a chain of commands, a call with its operands, the
name of a function alone, a pipeline in parentheses. -/
def IsUnsupported (p : Pipeline) : Prop :=
  p.assigns = true ∨ 1 < p.commands.length ∨
    ∃ command ∈ p.commands,
      1 < command.length ∨ (∃ name, command = [.function name]) ∨ ∃ inner, command = [.group inner]

/-- Whether a command is a call: several operands, or the name of a function. -/
def isCall : Command → Bool
  | _ :: _ :: _ => true
  | [.function _] => true
  | _ => false

/-- Whether a command is a pipeline in parentheses. -/
def isGroup : Command → Bool
  | [.group _] => true
  | _ => false

/-- Why the commands of a pipeline are refused. A chain is refused as such, whatever its commands are. -/
def commandsRefusal? (p : Pipeline) : Option Error :=
  if 1 < p.commands.length then some .chainedPipeline
  else if p.commands.any isCall then some .functionCall
  else if p.commands.any isGroup then some (.unsupported .group)
  else none

/-- Why a pipeline is refused. Its variables count before its commands, and only a block may declare them. -/
def refusal? (inAction : Bool) (p : Pipeline) : Option Error :=
  if p.assigns then some (.unsupported .assignment)
  else if inAction && !p.targets.isEmpty then some (.unsupported .declaration)
  else p.commandsRefusal?

theorem isCall_iff {command : Command} :
    isCall command = true ↔ 1 < command.length ∨ ∃ name, command = [.function name] := by
  match command with
  | [] => simp [isCall]
  | [operand] => cases operand <;> simp [isCall]
  | _ :: _ :: _ => simp [isCall]

theorem isGroup_iff {command : Command} : isGroup command = true ↔ ∃ inner, command = [.group inner] := by
  match command with
  | [] => simp [isGroup]
  | [operand] => cases operand <;> simp [isGroup]
  | _ :: _ :: _ => simp [isGroup]

/-- One step of a chain of reasons: there is a reason when this one applies or there is another. -/
theorem isSome_reason {c : Prop} [Decidable c] {e : Error} {others : Option Error} :
    (if c then some e else others).isSome = true ↔ c ∨ others.isSome = true := by
  by_cases hc : c <;> simp [hc]

/-- A pipeline is refused exactly for its form. -/
theorem refusal?_isSome_iff {inAction : Bool} {p : Pipeline} :
    (p.refusal? inAction).isSome = true ↔ (inAction = true ∧ p.targets ≠ []) ∨ p.IsUnsupported := by
  have hcommands : p.commandsRefusal?.isSome = true ↔
      1 < p.commands.length ∨ (∃ command ∈ p.commands, isCall command = true) ∨
        ∃ command ∈ p.commands, isGroup command = true := by
    simp only [commandsRefusal?, isSome_reason, List.any_eq_true, Option.isSome_none, Bool.false_eq_true, or_false]
  rw [refusal?, isSome_reason, isSome_reason, hcommands, IsUnsupported]
  simp only [isCall_iff, isGroup_iff, Bool.and_eq_true, Bool.not_eq_true', List.isEmpty_eq_false_iff, ← exists_or,
    ← and_or_left, or_assoc]
  exact or_left_comm

/-! ## The operand of a pipeline that is refused -/

/-- A reason is the error that it is given as, when it is not one for something that no tree of a source has. -/
theorem reason_iff {α : Type} {e e' : Error} (he' : ¬e'.IsMalformed) :
    some e' = some e ↔ (.error e' : Except Error α) = .error e ∧ ¬e.IsMalformed := by
  constructor
  · intro h
    cases h
    exact ⟨rfl, he'⟩
  · rintro ⟨h, -⟩
    cases h
    rfl

theorem no_reason_iff {α : Type} {e e' : Error} (he' : e'.IsMalformed) :
    none = some e ↔ (.error e' : Except Error α) = .error e ∧ ¬e.IsMalformed := by
  constructor
  · intro h
    cases h
  · rintro ⟨h, he⟩
    cases h
    exact absurd he' he

/-- A command is refused with the error for its operand. -/
theorem commandRefusal_iff {command : Command} {e : Error} :
    (if isCall command then some Error.functionCall
      else if isGroup command then some (.unsupported .group) else none) = some e ↔
      commandOperand command = .error e ∧ ¬e.IsMalformed := by
  cases command with
  | nil => exact no_reason_iff (Or.inr (Or.inl rfl))
  | cons operand operands =>
    cases operands with
    | nil =>
      cases operand with
      | function name => exact reason_iff (by simp [Error.IsMalformed])
      | group inner => exact reason_iff (by simp [Error.IsMalformed])
      | _ => simp [isCall, isGroup, commandOperand]
    | cons next operands =>
      have hcall : commandOperand (operand :: next :: operands) = .error .functionCall := by simp [commandOperand]
      rw [if_pos (by simp [isCall]), hcall]
      exact reason_iff (by simp [Error.IsMalformed])

/-- The commands of a pipeline are refused with the error for its operand. The errors for what is not there at all, a
command or an operand, are no refusals. -/
theorem commandsRefusal?_eq_some {p : Pipeline} {e : Error} :
    p.commandsRefusal? = some e ↔ singleOperand p = .error e ∧ ¬e.IsMalformed := by
  rw [commandsRefusal?, singleOperand]
  cases p.commands with
  | nil => exact no_reason_iff (Or.inl rfl)
  | cons command commands =>
    cases commands with
    | nil =>
      rw [if_neg (by simp)]
      simp only [List.any_cons, List.any_nil, Bool.or_false]
      exact commandRefusal_iff
    | cons next commands =>
      rw [if_pos (by simp)]
      exact reason_iff (by simp [Error.IsMalformed])

theorem controlRefusal?_eq_some {p : Pipeline} {e : Error} :
    p.refusal? false = some e ↔ controlOperand p = .error e ∧ ¬e.IsMalformed := by
  rw [refusal?, controlOperand]
  by_cases hassigns : p.assigns = true
  · rw [if_pos hassigns, if_pos hassigns]
    exact reason_iff (by simp [Error.IsMalformed])
  · rw [if_neg hassigns, if_neg hassigns]
    exact commandsRefusal?_eq_some

theorem outputRefusal?_eq_some {p : Pipeline} {e : Error} :
    p.refusal? true = some e ↔ outputOperand p = .error e ∧ ¬e.IsMalformed := by
  rw [refusal?, outputOperand]
  by_cases hassigns : p.assigns = true
  · rw [if_pos hassigns, if_pos hassigns]
    exact reason_iff (by simp [Error.IsMalformed])
  · rw [if_neg hassigns, if_neg hassigns, Bool.true_and]
    by_cases htargets : (!p.targets.isEmpty) = true
    · rw [if_pos htargets, if_pos htargets]
      exact reason_iff (by simp [Error.IsMalformed])
    · rw [if_neg htargets, if_neg htargets]
      exact commandsRefusal?_eq_some

end Pipeline

namespace Node

/-- The nodes that do not become SQL: an action that declares variables, an action or a block whose pipeline is
unsupported, and the nodes that end a round of a loop or invoke a template. -/
def IsUnsupported : Node → Prop
  | .action p => p.targets ≠ [] ∨ p.IsUnsupported
  | .block _ p _ _ => p.IsUnsupported
  | .breakLoop | .continueLoop | .template _ _ => True
  | .text _ | .comment _ => False

/-- Why a node is refused. -/
def refusal? : Node → Option Error
  | .action p => p.refusal? true
  | .block _ p _ _ => p.refusal? false
  | .text _ | .comment _ => none
  | node => some (.unsupportedNode node.kind)

/-- A node is refused exactly for its form. -/
theorem refusal?_isSome_iff {node : Node} : node.refusal?.isSome = true ↔ node.IsUnsupported := by
  cases node with
  | action p => simp [refusal?, IsUnsupported, Pipeline.refusal?_isSome_iff]
  | block kind p body otherwise => simp [refusal?, IsUnsupported, Pipeline.refusal?_isSome_iff]
  | _ => simp [refusal?, IsUnsupported]

/-- A node that is refused is refused for a reason. -/
theorem exists_refusal {node : Node} (h : node.IsUnsupported) : ∃ e, node.refusal? = some e :=
  Option.isSome_iff_exists.mp (refusal?_isSome_iff.mpr h)

end Node

/-! ## Compiling and walking what is refused -/

/-- A node that is no block and is refused does not compile, with the reason as the error. Beside the reasons only what
no tree of a source has keeps a node from compiling. -/
theorem StaticTemplate.refusal?_eq_some {node : Node} {e : Error} (hblock : node.isBlock = false) :
    node.refusal? = some e ↔ ofNode node = .error e ∧ ¬e.IsMalformed := by
  cases node with
  | text s => simp [Node.refusal?, ofNode]
  | comment s => simp [Node.refusal?, ofNode]
  | block kind p body otherwise => cases hblock
  | action p =>
    rw [Node.refusal?, Pipeline.outputRefusal?_eq_some, ofNode]
    constructor
    · rintro ⟨h, he⟩
      exact ⟨bind_eq_error.mpr (Or.inl h), he⟩
    · rintro ⟨h, he⟩
      rcases bind_eq_error.mp h with h | ⟨operand, hoperand, h⟩
      · exact ⟨h, he⟩
      · obtain ⟨-, halone⟩ := Pipeline.outputOperand_eq_ok.mp hoperand
        obtain ⟨name, path, rfl, hname⟩ := variable_of_ofOperand halone h
        have hfree : e = .unsupported .freeVariable := by
          simp only [ofOperand, Operand.literalText?, pathOf, if_neg hname] at h
          cases h
          rfl
        exact absurd (Or.inr (Or.inr hfree)) he
  | _ => exact Pipeline.reason_iff (by simp [Error.IsMalformed, Node.kind])

/-- A list without blocks that compiles has no unsupported node. -/
theorem StaticTemplate.supported_of_compile {nodes : List Node} {t : StaticTemplate}
    (hblocks : nodes.any Node.isBlock = false) (h : compile nodes = .ok t) : ∀ node ∈ nodes, ¬node.IsUnsupported := by
  intro node hmem hnode
  obtain ⟨e, he⟩ := Node.exists_refusal hnode
  obtain ⟨part, hpart⟩ := ofNode_of_compile h node hmem
  have hblock : node.isBlock = false := by simpa using List.any_eq_false.mp hblocks node hmem
  rw [((refusal?_eq_some hblock).mp he).1] at hpart
  cases hpart

namespace DynamicTemplate

/-- The visit of a node that is refused fails, with the reason as the error. -/
theorem renderVisit_of_refusal? {visit : Visit} {e : Error} (h : visit.node.refusal? = some e) (policy : MissingValue) :
    renderVisit policy visit = .error e := by
  obtain ⟨env, node⟩ := visit
  cases node with
  | text s => cases h
  | comment s => cases h
  | action p =>
    obtain ⟨hoperand, -⟩ := Pipeline.outputRefusal?_eq_some.mp h
    exact bind_eq_error.mpr (Or.inl hoperand)
  | block kind p body otherwise =>
    obtain ⟨hoperand, -⟩ := Pipeline.controlRefusal?_eq_some.mp h
    have hvalue : blockValue env p = .error e := bind_eq_error.mpr (Or.inl hoperand)
    cases kind with
    | cond => rw [renderVisit, hvalue]; rfl
    | loop => rw [renderVisit, hvalue]; rfl
    | focus => rw [renderVisit, hvalue]; rfl
  | _ => cases h; rfl

/-- A visit that succeeds is a visit to a supported node. -/
theorem not_isUnsupported_of_renderVisit {policy : MissingValue} {visit : Visit} {r : Rendered}
    (h : renderVisit policy visit = .ok r) : ¬visit.node.IsUnsupported := by
  intro hnode
  obtain ⟨e, he⟩ := Node.exists_refusal hnode
  rw [renderVisit_of_refusal? he] at h
  cases h

/-- The walk of a list comes to every node of the list. -/
theorem mem_visitsAll_of_mem {nodes : List Node} {node : Node} (h : node ∈ nodes) (env : Env) :
    ⟨env, node⟩ ∈ visitsAll env nodes := by
  induction nodes with
  | nil => cases h
  | cons first nodes ih =>
    rw [visitsAll, List.mem_append]
    rcases List.mem_cons.mp h with rfl | h
    · left
      cases node with
      | block kind p body otherwise => cases kind <;> simp [visits]
      | _ => simp [visits]
    · exact Or.inr (ih h)

/-- No walk that succeeds comes to an unsupported node. -/
theorem supported_of_renderNodes {policy : MissingValue} {env : Env} {nodes : List Node} {r : Rendered}
    (h : renderNodes policy env nodes = .ok r) : ∀ visit ∈ visitsAll env nodes, ¬visit.node.IsUnsupported := by
  intro visit hvisit
  rw [renderNodes_eq_concat_visits] at h
  obtain ⟨s, hs⟩ := exists_ok_of_concat h visit hvisit
  exact not_isUnsupported_of_renderVisit hs

end DynamicTemplate

namespace Template

/-- The tree of a source without blocks is not built when a node in it is unsupported: the first one is the reason. -/
theorem build_of_unsupported {source : String} {nodes : List Node} (hparse : Node.parse source = .ok nodes)
    (hblocks : nodes.any Node.isBlock = false) (hnode : ∃ node ∈ nodes, node.IsUnsupported) (options : Options) :
    ∃ front node rest e, nodes = front ++ node :: rest ∧ (∀ n ∈ front, ¬n.IsUnsupported) ∧ node.IsUnsupported ∧
      node.refusal? = some e ∧ build source options = .error e := by
  cases hcompile : StaticTemplate.compile nodes with
  | ok template =>
    -- a list that compiles has no unsupported node
    obtain ⟨node, hmem, hnode⟩ := hnode
    exact absurd hnode (StaticTemplate.supported_of_compile hblocks hcompile node hmem)
  | error e =>
    obtain ⟨front, cause, rest, hnodes, ⟨template, hfront⟩, hcause⟩ := StaticTemplate.compile_eq_error hcompile
    have hsplit : front.any Node.isBlock = false ∧ cause.isBlock = false := by
      simp only [hnodes, List.any_append, List.any_cons, Bool.or_eq_false_iff] at hblocks
      exact ⟨hblocks.1, hblocks.2.1⟩
    have he : ¬e.IsMalformed := by
      obtain ⟨last, haccepted⟩ := accepted_of_parse hparse
      exact StaticTemplate.not_isMalformed_of_compile (fun _ _ h => Node.wellFormed_of_occurs hparse h) haccepted hcompile
    have hreason := (StaticTemplate.refusal?_eq_some hsplit.2).mpr ⟨hcause, he⟩
    have hunsupported : cause.IsUnsupported := Node.refusal?_isSome_iff.mp (Option.isSome_of_eq_some hreason)
    refine ⟨front, cause, rest, e, hnodes, StaticTemplate.supported_of_compile hsplit.1 hfront, hunsupported, hreason, ?_⟩
    rw [build, hparse, ok_bind, Compiled.ofNodes, if_neg (by simp [hblocks]), hcompile]
    rfl

/-- A list with an unsupported node is walked from no parameter. -/
theorem render_of_unsupported {nodes : List Node} (hnode : ∃ node ∈ nodes, node.IsUnsupported) (options : Options)
    (p : Parameter) : ∃ e, render ⟨.dynamic nodes, options⟩ p = .error e := by
  cases hrender : render ⟨.dynamic nodes, options⟩ p with
  | error e => exact ⟨e, rfl⟩
  | ok r =>
    obtain ⟨v, -, hwalk⟩ := bind_eq_ok.mp hrender
    obtain ⟨node, hmem, hnode⟩ := hnode
    have hvisit := DynamicTemplate.mem_visitsAll_of_mem hmem (.initial v)
    exact absurd hnode (DynamicTemplate.supported_of_renderNodes hwalk _ hvisit)

/-- An unsupported construct is never approximated. A source without blocks, but with an unsupported node, is not built,
and the error is the reason for which the first unsupported node is refused. With a block beside such a node it is built,
but rendered from no parameter, whatever the policy. And of any tree, a walk that succeeds has come to supported nodes
only, at every depth. -/
theorem never_renders_unsupported :
    (∀ (source : String) (nodes : List Node) (options : Options), Node.parse source = .ok nodes →
      (∃ node ∈ nodes, node.IsUnsupported) →
      (nodes.any Node.isBlock = false →
        ∃ front node rest e, nodes = front ++ node :: rest ∧ (∀ n ∈ front, ¬n.IsUnsupported) ∧ node.IsUnsupported ∧
          node.refusal? = some e ∧ build source options = .error e) ∧
      (nodes.any Node.isBlock = true →
        ∃ t, build source options = .ok t ∧ t.isStatic = false ∧ ∀ p, ∃ e, t.render p = .error e)) ∧
    ∀ (nodes : List Node) (options : Options) (v : Value) (r : Rendered), DynamicTemplate.render nodes options v = .ok r →
      ∀ visit ∈ DynamicTemplate.visitsAll (.initial v) nodes, ¬visit.node.IsUnsupported := by
  refine ⟨fun source nodes options hparse hnode => ⟨fun hblocks => ?_, fun hblocks => ?_⟩, fun nodes options v r h => ?_⟩
  · exact build_of_unsupported hparse hblocks hnode options
  · refine ⟨⟨.dynamic nodes, options⟩, ?_, rfl, render_of_unsupported hnode options⟩
    rw [build, hparse, ok_bind, Compiled.ofNodes, if_pos hblocks]
    rfl
  · exact DynamicTemplate.supported_of_renderNodes h

/-- A chain beside a field, a call after a block, and a walk through a loop of two rounds. -/
theorem never_renders_unsupported_chain :
    (∃ front node rest e,
      [Node.action ⟨[], false, [[.field ["A"]]]⟩, .action ⟨[], false, [[.field ["B"]], [.function "len"]]⟩] =
        front ++ node :: rest ∧
      (∀ n ∈ front, ¬n.IsUnsupported) ∧ node.IsUnsupported ∧ node.refusal? = some e ∧
        build "{{.A}}{{.B | len}}" .default = .error e) ∧
    (∃ t, build "{{if .A}}x{{end}}{{len .B}}" .default = .ok t ∧ t.isStatic = false ∧ ∀ p, ∃ e, t.render p = .error e) ∧
    ∀ visit ∈ DynamicTemplate.visitsAll (.initial (.list [.null, .null]))
      [.block .loop ⟨[], false, [[.dot]]⟩ [.action ⟨[], false, [[.dot]]⟩, .text ", "] []], ¬visit.node.IsUnsupported := by
  obtain ⟨hbuild, hwalk⟩ := never_renders_unsupported
  refine ⟨?_, ?_, hwalk _ .default _ ⟨"?, ?, ", [.null, .null]⟩ (by rfl)⟩
  · refine (hbuild "{{.A}}{{.B | len}}" _ .default (by decide +kernel) ⟨_, List.mem_cons_of_mem _ List.mem_cons_self, ?_⟩).1 rfl
    exact Or.inr (Or.inr (Or.inl (by decide)))
  · refine (hbuild "{{if .A}}x{{end}}{{len .B}}"
      [.block .cond ⟨[], false, [[.field ["A"]]]⟩ [.text "x"] [], .action ⟨[], false, [[.function "len", .field ["B"]]]⟩]
      .default (by decide +kernel) ⟨_, List.mem_cons_of_mem _ List.mem_cons_self, ?_⟩).2 rfl
    exact Or.inr (Or.inr (Or.inr ⟨_, List.mem_cons_self, Or.inl (by decide)⟩))

end Template

end QueryTemplate
