import QueryTemplate.Syntax.Equality

/-!
# Actions

What stands between double braces, before the actions of a source are put together to a tree.
-/

namespace QueryTemplate

/-- An action. -/
inductive Action where
  | output (pipeline : Pipeline)
  /-- The beginning of a block. -/
  | opening (kind : BlockKind) (pipeline : Pipeline)
  /-- `else`, perhaps together with the beginning of another block. -/
  | otherwise (chained : Option (BlockKind × Pipeline))
  /-- The end of a block. -/
  | ending
  | breakLoop
  | continueLoop
  | template (name : String) (argument : Option Pipeline)
  /-- The definition of a template, by its word. -/
  | definition (keyword : String)
deriving DecidableEq

end QueryTemplate
