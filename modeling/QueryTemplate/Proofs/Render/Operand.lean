import QueryTemplate.Render.Operand
import QueryTemplate.Syntax.Text

/-!
# Pipelines with an operand

Which pipelines have an operand, for an action (`outputOperand_eq_ok`) and for a block (`controlOperand_eq_ok`): those
of one command with one operand that is neither a function nor a pipeline in parentheses.
-/

namespace QueryTemplate

/-- The operands that may stand alone in a pipeline. -/
def Operand.standsAlone : Operand → Bool
  | .function _ | .group _ => false
  | _ => true

/-- An operand that may stand alone is a literal or a reference. -/
theorem Operand.reference_of_standsAlone {operand : Operand} (halone : operand.standsAlone = true)
    (hliteral : operand.literalText? = none) :
    operand = .dot ∨ (∃ path, operand = .field path) ∨ ∃ name path, operand = .variable name path := by
  have hnot : operand.isLiteral = false := by rw [Operand.isLiteral_eq_isSome, hliteral]; rfl
  cases operand <;> simp_all [Operand.isLiteral, Operand.standsAlone]

namespace Pipeline

/-- A command has an operand exactly when it is that operand alone. -/
theorem commandOperand_eq_ok {command : Command} {operand : Operand} :
    commandOperand command = .ok operand ↔ command = [operand] ∧ operand.standsAlone = true := by
  constructor
  · intro h
    unfold commandOperand at h
    split at h
    · cases h
    · cases h
    · cases h
    · rename_i o hfunction hgroup
      cases h
      refine ⟨rfl, ?_⟩
      unfold Operand.standsAlone
      split
      · exact absurd rfl (hfunction _)
      · exact absurd rfl (hgroup _)
      · rfl
    · cases h
  · rintro ⟨rfl, h⟩
    unfold Operand.standsAlone at h
    split at h
    · cases h
    · cases h
    · rename_i hfunction hgroup
      unfold commandOperand
      split <;> simp_all

/-- A pipeline has an operand exactly when it is one command that has it. -/
theorem singleOperand_eq_ok {p : Pipeline} {operand : Operand} :
    singleOperand p = .ok operand ↔ p.commands = [[operand]] ∧ operand.standsAlone = true := by
  unfold singleOperand
  split
  · rename_i hcommands
    simp [hcommands]
  · rename_i command hcommands
    rw [commandOperand_eq_ok, hcommands, List.cons.injEq]
    simp
  · rename_i first second rest hcommands
    simp [hcommands]

/-- The pipelines of blocks that have an operand. -/
theorem controlOperand_eq_ok {p : Pipeline} {operand : Operand} :
    controlOperand p = .ok operand ↔
      p.assigns = false ∧ p.commands = [[operand]] ∧ operand.standsAlone = true := by
  unfold controlOperand
  cases h : p.assigns
  · simp [singleOperand_eq_ok]
  · simp

/-- The pipelines of actions that have an operand. -/
theorem outputOperand_eq_ok {p : Pipeline} {operand : Operand} :
    outputOperand p = .ok operand ↔ p = ⟨[], false, [[operand]]⟩ ∧ operand.standsAlone = true := by
  obtain ⟨targets, assigns, commands⟩ := p
  unfold outputOperand
  cases assigns
  · cases targets
    · simp [singleOperand_eq_ok]
    · simp
  · simp

end Pipeline

end QueryTemplate
