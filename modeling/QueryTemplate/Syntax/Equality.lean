import QueryTemplate.Syntax

/-!
# Equality of trees

Trees are compared structurally. Operands hold pipelines of operands, and nodes hold lists of nodes, so the comparisons are
written out rather than derived. They reduce in the kernel: concrete trees are compared by evaluation.
-/

namespace QueryTemplate

/-! ## Operands and pipelines -/

namespace Operand

mutual

/-- Structural equality of operands. -/
def beq : Operand → Operand → Bool
  | .bool b, .bool c => b == c
  | .number s x, .number t y => s == t && x == y
  | .string s, .string t => s == t
  | .nil, .nil => true
  | .dot, .dot => true
  | .field path, .field path' => path == path'
  | .variable name path, .variable name' path' => name == name' && path == path'
  | .function name, .function name' => name == name'
  | .group p, .group q => beqPipeline p q
  | _, _ => false

/-- Structural equality of pipelines. -/
def beqPipeline : Pipeline → Pipeline → Bool
  | ⟨targets, assigns, commands⟩, ⟨targets', assigns', commands'⟩ =>
    targets == targets' && assigns == assigns' && beqCommands commands commands'

/-- Structural equality of the commands of pipelines. -/
def beqCommands : List Command → List Command → Bool
  | [], [] => true
  | c :: cs, d :: ds => beqCommand c d && beqCommands cs ds
  | _, _ => false

/-- Structural equality of commands. -/
def beqCommand : Command → Command → Bool
  | [], [] => true
  | e :: es, f :: fs => e.beq f && beqCommand es fs
  | _, _ => false

end

mutual

/-- The comparison decides the equality of operands. -/
theorem beq_iff : (e f : Operand) → (e.beq f = true ↔ e = f)
  | .bool _, f => by cases f <;> simp [beq]
  | .number _ _, f => by cases f <;> simp [beq]
  | .string _, f => by cases f <;> simp [beq]
  | .nil, f => by cases f <;> simp [beq]
  | .dot, f => by cases f <;> simp [beq]
  | .field _, f => by cases f <;> simp [beq]
  | .variable _ _, f => by cases f <;> simp [beq]
  | .function _, f => by cases f <;> simp [beq]
  | .group p, f => by cases f <;> simp [beq, beqPipeline_iff p]

/-- The comparison decides the equality of pipelines. -/
theorem beqPipeline_iff : (p q : Pipeline) → (beqPipeline p q = true ↔ p = q)
  | ⟨_, _, commands⟩, q => by cases q; simp [beqPipeline, beqCommands_iff commands, and_assoc]

/-- The comparison decides the equality of rows of commands. -/
theorem beqCommands_iff : (cs ds : List Command) → (beqCommands cs ds = true ↔ cs = ds)
  | [], ds => by cases ds <;> simp [beqCommands]
  | c :: cs, ds => by cases ds <;> simp [beqCommands, beqCommand_iff c, beqCommands_iff cs]

/-- The comparison decides the equality of commands. -/
theorem beqCommand_iff : (es fs : Command) → (beqCommand es fs = true ↔ es = fs)
  | [], fs => by cases fs <;> simp [beqCommand]
  | e :: es, fs => by cases fs <;> simp [beqCommand, beq_iff e, beqCommand_iff es]

end

end Operand

instance : DecidableEq Operand :=
  fun e f => decidable_of_iff _ (Operand.beq_iff e f)

/-! ## Nodes -/

namespace Node

mutual

/-- Structural equality of nodes. -/
def beq : Node → Node → Bool
  | .text s, .text t => s == t
  | .action p, .action q => p == q
  | .block kind p body otherwise, .block kind' q body' otherwise' =>
    kind == kind' && p == q && beqAll body body' && beqAll otherwise otherwise'
  | .comment s, .comment t => s == t
  | .breakLoop, .breakLoop => true
  | .continueLoop, .continueLoop => true
  | .template name argument, .template name' argument' => name == name' && argument == argument'
  | _, _ => false

/-- Structural equality of lists of nodes. -/
def beqAll : List Node → List Node → Bool
  | [], [] => true
  | m :: ms, n :: ns => m.beq n && beqAll ms ns
  | _, _ => false

end

mutual

/-- The comparison decides the equality of nodes. -/
theorem beq_iff : (m n : Node) → (m.beq n = true ↔ m = n)
  | .text _, n => by cases n <;> simp [beq]
  | .action _, n => by cases n <;> simp [beq]
  | .block _ _ body otherwise, n => by
    cases n <;> simp [beq, beqAll_iff body, beqAll_iff otherwise, and_assoc]
  | .comment _, n => by cases n <;> simp [beq]
  | .breakLoop, n => by cases n <;> simp [beq]
  | .continueLoop, n => by cases n <;> simp [beq]
  | .template _ _, n => by cases n <;> simp [beq]

/-- The comparison decides the equality of lists of nodes. -/
theorem beqAll_iff : (ms ns : List Node) → (beqAll ms ns = true ↔ ms = ns)
  | [], ns => by cases ns <;> simp [beqAll]
  | m :: ms, ns => by cases ns <;> simp [beqAll, beq_iff m, beqAll_iff ms]

end

end Node

instance : DecidableEq Node :=
  fun m n => decidable_of_iff _ (Node.beq_iff m n)

end QueryTemplate
