import QueryTemplate.Proofs.Action.ReadBack
import QueryTemplate.Proofs.Assembly.WellFormed
import QueryTemplate.Syntax.Outline

/-!
# Operands of a tree are read back

Every operand in the tree of a source was read by the grammar, also inside parentheses and at any depth of blocks
(`Pipeline.IsRead.operand`), and names only functions that there are. So its text by itself is an action with this operand and
nothing else (`Node.operand_read_back`).
-/

namespace QueryTemplate

/-! ## Operands that were read -/

/-- The reader for operands reads the operand from some text. -/
def Operand.IsRead (e : Operand) : Prop :=
  ∃ s rest, Reader.operand s = .done e rest

namespace Pipeline

/-- The operands of a pipeline that was read were read. -/
theorem IsRead.operand {p : Pipeline} (h : p.IsRead) {command : Command} (hcommand : command ∈ p.commands) {e : Operand}
    (he : e ∈ command) : e.IsRead := by
  obtain ⟨s, rest, hread⟩ := h
  rw [Reader.pipeline_eq] at hread
  have hoperand : (Reader.operandOver Reader.pipeline).Yields Operand.IsRead := fun s _ rest h => ⟨s, rest, h⟩
  exact ((Reader.yields_operands hoperand s p rest hread).2 command hcommand).2 e he

/-- The pipelines in the parentheses of a pipeline that was read were read. -/
theorem IsRead.contains {place place' : PipelinePlace} {p q : Pipeline} (h : p.IsRead) (hq : Contains place p place' q) :
    q.IsRead := by
  induction hq with
  | itself => exact h
  | group hcommand hgroup _ ih =>
    obtain ⟨s, rest, hread⟩ := h.operand hcommand hgroup
    exact ih ((Reader.yields_operandOver Reader.yields_isRead_pipeline s _ rest hread).2 _ rfl)

end Pipeline

/-! ## Outlines -/

/-- An operand stands in one of the commands of a pipeline or of a pipeline in its parentheses, at whatever place the pipeline
is. -/
def Pipeline.Holds (p : Pipeline) (e : Operand) : Prop :=
  ∀ place, ∃ place' q, Contains place p place' q ∧ ∃ command ∈ q.commands, e ∈ command

namespace Operand

/-- An operand is another one or stands in its parentheses. -/
def Within (o e : Operand) : Prop :=
  e = o ∨ ∃ p, o = .group p ∧ Pipeline.Holds p e

/-- A pipeline holds what stands in its operands. -/
theorem Within.holds {p : Pipeline} {o e : Operand} {command : Command} (h : o.Within e) (hcommand : command ∈ p.commands)
    (ho : o ∈ command) : p.Holds e := by
  intro place
  obtain rfl | ⟨q, rfl, hq⟩ := h
  · exact ⟨place, p, .itself place p, command, hcommand, ho⟩
  · obtain ⟨place', r, hr, hcommand'⟩ := hq .group
    exact ⟨place', r, .group hcommand ho hr, hcommand'⟩

mutual

/-- What the outline of an operand lists is the operand or stands in its parentheses. -/
theorem within_of_mem_outline {e : Operand} (o : Operand) (h : e ∈ o.outline) : o.Within e := by
  match o with
  | .group p =>
    rw [outline, List.mem_cons] at h
    exact h.imp_right fun h => ⟨p, rfl, holds_of_mem_outlinePipeline p h⟩
  | .bool _ | .number _ _ | .string _ | .nil | .dot | .field _ | .variable _ _ | .function _ =>
    exact Or.inl (List.mem_singleton.mp h)

/-- What the outline of a pipeline lists stands in the pipeline. -/
theorem holds_of_mem_outlinePipeline {e : Operand} (p : PipelineOf Operand) (h : e ∈ outlinePipeline p) :
    Pipeline.Holds p e := by
  match p with
  | ⟨targets, assigns, commands⟩ =>
    obtain ⟨command, hcommand, o, ho, hwithin⟩ := exists_within_of_mem_outlineCommands commands h
    exact hwithin.holds hcommand ho

theorem exists_within_of_mem_outlineCommands {e : Operand} (commands : List (List Operand))
    (h : e ∈ outlineCommands commands) : ∃ command ∈ commands, ∃ o ∈ command, o.Within e := by
  match commands with
  | [] => cases h
  | command :: commands =>
    rw [outlineCommands, List.mem_append] at h
    rcases h with h | h
    · exact ⟨command, List.mem_cons_self, exists_within_of_mem_outlineCommand command h⟩
    · obtain ⟨other, hother, ho⟩ := exists_within_of_mem_outlineCommands commands h
      exact ⟨other, List.mem_cons_of_mem _ hother, ho⟩

theorem exists_within_of_mem_outlineCommand {e : Operand} (operands : List Operand) (h : e ∈ outlineCommand operands) :
    ∃ o ∈ operands, o.Within e := by
  match operands with
  | [] => cases h
  | o :: operands =>
    rw [outlineCommand, List.mem_append] at h
    rcases h with h | h
    · exact ⟨o, List.mem_cons_self, within_of_mem_outline o h⟩
    · obtain ⟨other, hother, hwithin⟩ := exists_within_of_mem_outlineCommand operands h
      exact ⟨other, List.mem_cons_of_mem _ hother, hwithin⟩

end

end Operand

namespace Node

/-- The pipeline of a node. -/
def pipeline? : Node → Option Pipeline
  | .action p | .block _ p _ _ | .template _ (some p) => some p
  | _ => none

/-- The pipeline of some node in a list, at any depth, has the operand in its outline. -/
def HoldsAtDepth (nodes : List Node) (e : Operand) : Prop :=
  ∃ node inLoop p, Occurs node inLoop nodes ∧ node.pipeline? = some p ∧ e ∈ Operand.outlinePipeline p

/-- The operands in the entries for a pipeline are those of the pipeline. -/
theorem mem_outline_of_operand {e : Operand} {p : Pipeline} (h : .operand e ∈ Pipeline.outline p) :
    e ∈ Operand.outlinePipeline p := by
  obtain ⟨o, ho, he⟩ := List.mem_map.mp h
  cases he
  exact ho

theorem HoldsAtDepth.mono {nodes nodes' : List Node} {e : Operand} (h : HoldsAtDepth nodes e) (hsub : nodes ⊆ nodes') :
    HoldsAtDepth nodes' e := by
  obtain ⟨node, inLoop, p, hnode, hp, he⟩ := h
  exact ⟨node, inLoop, p, hnode.mono hsub, hp, he⟩

mutual

/-- An operand in the outline of a node comes from the pipeline of the node or of one inside it. -/
theorem holdsAtDepth_of_mem_outline {e : Operand} (node : Node) (h : .operand e ∈ node.outline) :
    HoldsAtDepth [node] e := by
  match node with
  | .text _ | .comment _ | .breakLoop | .continueLoop | .template _ none => simp [outline] at h
  | .action p | .template _ (some p) =>
    rw [outline, List.mem_cons] at h
    rcases h with h | h
    · cases h
    · exact ⟨_, _, p, .here (List.mem_singleton_self _), rfl, mem_outline_of_operand h⟩
  | .block kind p body otherwise =>
    rw [outline, List.cons_append, List.cons_append, List.mem_cons, List.mem_append, List.mem_append] at h
    rcases h with h | (h | h) | h
    · cases h
    · exact ⟨_, _, p, .here (List.mem_singleton_self _), rfl, mem_outline_of_operand h⟩
    · obtain ⟨node, inLoop, q, hnode, hq, he⟩ := holdsAtDepth_of_mem_outlineNodes body h
      exact ⟨node, _, q, .body (List.mem_singleton_self _) hnode, hq, he⟩
    · obtain ⟨node, inLoop, q, hnode, hq, he⟩ := holdsAtDepth_of_mem_outlineNodes otherwise h
      exact ⟨node, _, q, .otherwise (List.mem_singleton_self _) hnode, hq, he⟩

theorem holdsAtDepth_of_mem_outlineNodes {e : Operand} (nodes : List Node) (h : .operand e ∈ outlineNodes nodes) :
    HoldsAtDepth nodes e := by
  match nodes with
  | [] => cases h
  | node :: nodes =>
    rw [outlineNodes, List.mem_append] at h
    rcases h with h | h
    · exact (holdsAtDepth_of_mem_outline node h).mono (List.cons_subset_cons node (List.nil_subset nodes))
    · exact (holdsAtDepth_of_mem_outlineNodes nodes h).mono (List.subset_cons_self node nodes)

end

/-! ## The main result -/

/-- The pipeline of a node in the tree of a source was read as a pipeline. -/
theorem isRead_of_parse {source : String} {nodes : List Node} (h : parse source = .ok nodes) {node : Node}
    (hnode : node ∈ preorderAll nodes) {p : Pipeline} (hp : node.pipeline? = some p) : p.IsRead := by
  obtain ⟨items, item, piece, -, -, hpiece, hm⟩ := exists_item_of_parse h hnode
  obtain ⟨a, ha, hpipeline⟩ : ∃ a, node.mark = .action a ∧ a.pipeline? = some p := by
    match node, hp with
    | .action _, hp | .block _ _ _ _, hp | .template _ (some _), hp => exact ⟨_, rfl, hp⟩
  rw [ha] at hm
  cases item with
  | text s | comment s => cases hpiece; cases hm
  | action offset body =>
    obtain ⟨_, ⟨⟩, hread⟩ := Piece.isRead_of_mark hpiece hm
    exact hread p hpipeline

/-- The pipeline of a well-formed node is well formed at its place. -/
theorem IsWellFormed.pipeline {node : Node} {inLoop : Bool} (h : node.IsWellFormed inLoop) {p : Pipeline}
    (hp : node.pipeline? = some p) : ∃ place, p.IsWellFormed place := by
  match node, hp with
  | .action _, rfl | .block _ _ _ _, rfl | .template _ (some _), rfl => exact ⟨_, h⟩

/-- The text of an operand is an action whose pipeline has no variables and one command, with this operand only. This holds for
every operand in the tree of a source that is no string and no pipeline in parentheses: for words, the dot, numbers and
characters of every form, fields, variables with their paths, and functions, at any depth of blocks and parentheses. -/
theorem operand_read_back {source : String} {nodes : List Node} (h : parse source = .ok nodes) {e : Operand}
    (he : .operand e ∈ outlineNodes nodes) (hstring : ∀ s, e ≠ .string s) (hgroup : ∀ p, e ≠ .group p) :
    Action.ofBody e.text.toList = .ok (.output ⟨[], false, [[e]]⟩) := by
  obtain ⟨node, inLoop, p, hnode, hp, he⟩ := holdsAtDepth_of_mem_outlineNodes nodes he
  obtain ⟨place, hwell⟩ := (wellFormed_of_occurs h hnode).pipeline hp
  obtain ⟨place', q, hq, command, hcommand, he⟩ := Operand.holds_of_mem_outlinePipeline p he place
  obtain ⟨s, rest, hread⟩ := ((isRead_of_parse h hnode.mem_preorderAll hp).contains hq).operand hcommand he
  have hfunction : ∀ name, e = .function name → name ∈ functionNames := by
    rintro name rfl
    exact (hwell place' q hq).2.functions command hcommand name he
  exact (Reader.readsBack_of_operandOver hread hstring hgroup hfunction).ofBody

/-- Operands of all kinds, some of them in parentheses and in the body of a block. -/
theorem operand_read_back_of_each_kind :
    parse "\x7b\x7bif $x := and true .A.B\x7d\x7d\x7b\x7b$x.C | eq (print -0x1F '\\n' nil . .5e1)\x7d\x7d\x7b\x7bend\x7d\x7d" =
        .ok [.block .cond ⟨["$x"], false, [[.function "and", .bool true, .field ["A", "B"]]]⟩
          [.action ⟨[], false, [[.variable "$x" ["C"]], [.function "eq", .group ⟨[], false, [[.function "print",
            .number "-0x1F" (.int (-31)), .number "'\\n'" (.int 10), .nil, .dot, .number ".5e1" (.int 5)]]⟩]]⟩] []] ∧
      ∀ e ∈ [Operand.function "and", .bool true, .field ["A", "B"], .variable "$x" ["C"], .function "eq",
          .function "print", .number "-0x1F" (.int (-31)), .number "'\\n'" (.int 10), .nil, .dot, .number ".5e1" (.int 5)],
        Action.ofBody e.text.toList = .ok (.output ⟨[], false, [[e]]⟩) := by
  have hparse : parse "\x7b\x7bif $x := and true .A.B\x7d\x7d\x7b\x7b$x.C | eq (print -0x1F '\\n' nil . .5e1)\x7d\x7d\x7b\x7bend\x7d\x7d" =
      .ok [.block .cond ⟨["$x"], false, [[.function "and", .bool true, .field ["A", "B"]]]⟩
        [.action ⟨[], false, [[.variable "$x" ["C"]], [.function "eq", .group ⟨[], false, [[.function "print",
          .number "-0x1F" (.int (-31)), .number "'\\n'" (.int 10), .nil, .dot, .number ".5e1" (.int 5)]]⟩]]⟩] []] := by
    decide +kernel
  refine ⟨hparse, fun e he => ?_⟩
  simp only [List.mem_cons, List.not_mem_nil, or_false] at he
  rcases he with rfl | rfl | rfl | rfl | rfl | rfl | rfl | rfl | rfl | rfl | rfl <;>
    refine operand_read_back hparse ?_ (by simp) (by simp) <;>
    simp [outlineNodes, outline, Pipeline.outline, Operand.outlinePipeline, Operand.outlineCommands,
      Operand.outlineCommand, Operand.outline]

end Node

end QueryTemplate
