import QueryTemplate.Proofs.Assembly.Grammar
import QueryTemplate.Proofs.Outcome
import QueryTemplate.Proofs.Scope.Fault

/-!
# What taking a piece does

Taking a piece fails because of the nesting of blocks (`SyntaxError.isNesting`), or for a reason of its own, or it changes
the open blocks and the list that is being filled in a way that the scope has no part in. `Proceeds` says what a step does
if it does not fail for a reason of its own, and there is one lemma for each kind of step.
-/

namespace QueryTemplate

/-- Whether an error is about `else` and `end` and the blocks that they belong to. -/
def SyntaxError.isNesting : SyntaxError → Bool
  | .unexpectedEnd | .unexpectedElse | .repeatedElse | .mismatchedElse _ _ | .unclosedBlock => true
  | _ => false

/-- Whether an error is about the nesting of blocks in a source. -/
def Error.isNesting : Error → Bool
  | .parse _ cause => cause.isNesting
  | _ => false

/-- Either a step succeeds and a property holds of its result, or it fails for a reason other than the nesting of blocks. -/
def Proceeds {α : Type} (x : Except Error α) (P : α → Prop) : Prop :=
  match x with
  | .ok a => P a
  | .error e => e.isNesting = false

theorem Proceeds.of_eq_ok {α : Type} {x : Except Error α} {P : α → Prop} {a : α} (h : Proceeds x P) (hx : x = .ok a) :
    P a := by
  subst hx
  exact h

theorem Proceeds.of_eq_error {α : Type} {x : Except Error α} {P : α → Prop} {e : Error} (h : Proceeds x P)
    (hx : x = .error e) : e.isNesting = false := by
  subst hx
  exact h

theorem Proceeds.bind {α β : Type} {x : Except Error α} {f : α → Except Error β} {P : α → Prop} {Q : β → Prop}
    (h : Proceeds x P) (hf : ∀ a, P a → Proceeds (f a) Q) : Proceeds (x >>= f) Q := by
  cases x with
  | ok a => exact hf a h
  | error e => exact h

/-- What the check of a pipeline may find is not about the nesting of blocks. -/
theorem SyntaxError.isNesting_of_isScoping {cause : SyntaxError} (h : cause.isScoping = true) : cause.isNesting = false := by
  cases cause <;> first | rfl | cases h

/-- The check of a pipeline finds nothing about the nesting of blocks. -/
theorem Scope.proceeds_afterPipeline (offset : Nat) (place : PipelinePlace) (scope : Scope) (p : PipelineOf Operand) :
    Proceeds (afterPipeline offset place scope p) fun _ => True := by
  have hends := ends_afterPipeline offset place scope p
  cases h : afterPipeline offset place scope p with
  | ok last => trivial
  | error e =>
    obtain ⟨cause, rfl, hcause⟩ := hends.of_eq_error h
    exact SyntaxError.isNesting_of_isScoping hcause

/-! ## Pieces -/

/-- A block without an `else` becomes a node with its last list as the body. -/
theorem OpenBlock.node_of_none {block : OpenBlock} (h : block.body = none) (nodes : List Node) :
    block.node nodes = .block block.kind block.pipeline nodes [] := by
  rw [node, h]

/-- A block with an `else` becomes a node with its last list as the alternative. -/
theorem OpenBlock.node_of_some {block : OpenBlock} {body : List Node} (h : block.body = some body) (nodes : List Node) :
    block.node nodes = .block block.kind block.pipeline body nodes := by
  rw [node, h]

namespace Assembly

/-- A piece that belongs to no frame adds its own nodes to the list that is being filled. -/
theorem proceeds_add {piece : Piece} {own : List Node} (h : piece.ownNodes = some own) (a : Assembly) :
    Proceeds (a.add piece) fun b => b.nodes = a.nodes ++ own ∧ b.blocks = a.blocks := by
  match piece, h with
  | .text _, h | .comment _, h | .action _ (.template _ none), h =>
    cases h
    exact ⟨rfl, rfl⟩
  | .action offset (.output pipeline), h =>
    cases h
    exact (Scope.proceeds_afterPipeline offset .action a.scope pipeline).bind fun _ _ => ⟨rfl, rfl⟩
  | .action offset (.template _ (some pipeline)), h =>
    cases h
    exact (Scope.proceeds_afterPipeline offset .template a.scope pipeline).bind fun _ _ => ⟨rfl, rfl⟩
  | .action _ .breakLoop, h | .action _ .continueLoop, h =>
    cases h
    rw [add, addAction]
    split
    · exact ⟨rfl, rfl⟩
    · rfl
  | .action _ (.definition _), _ => exact rfl

/-- Opening a block begins an empty list inside it. -/
theorem proceeds_openBlock (a : Assembly) (offset : Nat) (kind : BlockKind) (pipeline : Pipeline) (chained : Bool) :
    Proceeds (a.openBlock offset kind pipeline chained) fun b =>
      b.nodes = [] ∧ b.blocks = ⟨kind, pipeline, offset, a.nodes, none, a.scope, chained⟩ :: a.blocks :=
  (Scope.proceeds_afterPipeline offset (.block kind) a.scope pipeline).bind fun _ _ => ⟨rfl, rfl⟩

/-- What an `else` does that is taken: it ends the body of the innermost block, and may begin another block of the kind
inside its alternative. -/
theorem beginElse_eq_ok {a b : Assembly} {offset : Nat} {chained : Option (BlockKind × Pipeline)}
    (h : a.beginElse offset chained = .ok b) :
    ∃ block outer, a.blocks = block :: outer ∧ block.body = none ∧
      (chained = none ∧ b = ⟨[], a.scope, { block with body := some a.nodes } :: outer⟩ ∨
        ∃ pipeline, chained = some (block.kind, pipeline) ∧
          openBlock ⟨[], a.scope, { block with body := some a.nodes } :: outer⟩ offset block.kind pipeline true = .ok b) := by
  unfold beginElse at h
  split at h
  · cases h
  · rename_i block outer hblocks
    split at h
    · cases h
    · rename_i hbody
      refine ⟨block, outer, hblocks, by simpa using hbody, ?_⟩
      split at h
      · cases h
        exact Or.inl ⟨rfl, rfl⟩
      · rename_i kind pipeline
        split at h
        · rename_i hkind
          subst hkind
          exact Or.inr ⟨pipeline, rfl, h⟩
        · cases h

/-- The first `else` of a block is taken. -/
theorem beginElse_none {a : Assembly} {block : OpenBlock} {outer : List OpenBlock} (h : a.blocks = block :: outer)
    (hbody : block.body = none) (offset : Nat) :
    a.beginElse offset none = .ok ⟨[], a.scope, { block with body := some a.nodes } :: outer⟩ := by
  rw [beginElse, h]
  simp only [hbody, Option.isSome_none, Bool.false_eq_true, if_false]

/-- The first `else` of a block is taken if it begins a block of the same kind. -/
theorem beginElse_some {a : Assembly} {block : OpenBlock} {outer : List OpenBlock} (h : a.blocks = block :: outer)
    (hbody : block.body = none) (offset : Nat) (pipeline : Pipeline) :
    a.beginElse offset (some (block.kind, pipeline)) =
      openBlock ⟨[], a.scope, { block with body := some a.nodes } :: outer⟩ offset block.kind pipeline true := by
  rw [beginElse, h]
  simp only [hbody, Option.isSome_none, Bool.false_eq_true, if_false, if_true]

end Assembly

end QueryTemplate
