import QueryTemplate.Assembly
import QueryTemplate.Proofs.Scope.Fault

/-!
# Two assemblies side by side

Two assemblies match when they differ in the offsets of their actions only, or in this: one block that in the first shares
the end of the block around it has in the second an end of its own (`Assembly.Matched`). Every action that both take keeps
that (`Assembly.Matched.addAction`), and where the first takes the end of that block, the second takes two ends, after
which nothing but the offsets differs (`Assembly.Matched.endTwice`).
-/

namespace QueryTemplate

/-- Open blocks that are the same but for their offsets, except perhaps for one, which shares the end of the block around it
on the left and has an end of its own on the right. If there is such a block, it stands below as many blocks with ends of
their own as the index says. -/
inductive OpenBlock.Matched : Option Nat → List OpenBlock → List OpenBlock → Prop where
  | nil : OpenBlock.Matched none [] []
  | sharing (block : OpenBlock) {depth : Option Nat} {blocks blocks' : List OpenBlock} (offset : Nat) :
      block.chained = true → OpenBlock.Matched depth blocks blocks' →
      OpenBlock.Matched depth (block :: blocks) ({ block with offset } :: blocks')
  | ending (block : OpenBlock) {depth deeper : Option Nat} {blocks blocks' : List OpenBlock} (offset : Nat) :
      block.chained = false → OpenBlock.Matched depth blocks blocks' → deeper = depth.map (· + 1) →
      OpenBlock.Matched deeper (block :: blocks) ({ block with offset } :: blocks')
  | apart (block : OpenBlock) {around around' : OpenBlock} {blocks blocks' : List OpenBlock} (offset : Nat) :
      block.chained = true → OpenBlock.Matched none (around :: blocks) (around' :: blocks') →
      OpenBlock.Matched (some 0) (block :: around :: blocks) ({ block with offset, chained := false } :: around' :: blocks')

namespace OpenBlock.Matched

variable {depth : Option Nat} {block block' : OpenBlock} {blocks blocks' : List OpenBlock}

/-- Blocks match however far the innermost has been filled. -/
theorem withBody (h : Matched depth (block :: blocks) (block' :: blocks')) (body : Option (List Node)) :
    Matched depth ({ block with body } :: blocks) ({ block' with body } :: blocks') := by
  cases h with
  | sharing _ offset hchained h => exact .sharing { block with body } offset hchained h
  | ending _ offset hchained h hdeeper => exact .ending { block with body } offset hchained h hdeeper
  | apart _ offset hchained h => exact .apart { block with body } offset hchained h

/-- The innermost blocks are of one kind and filled alike. -/
theorem head (h : Matched depth (block :: blocks) (block' :: blocks')) :
    block'.kind = block.kind ∧ block'.body = block.body := by
  cases h <;> exact ⟨rfl, rfl⟩

theorem inLoop (h : Matched depth blocks blocks') :
    (blocks.any fun block => block.kind == .loop && block.body.isNone) =
      blocks'.any fun block => block.kind == .loop && block.body.isNone := by
  induction h with
  | nil => rfl
  | sharing _ _ _ _ ih | ending _ _ _ _ _ ih | apart _ _ _ _ ih => exact congrArg (_ || ·) ih

end OpenBlock.Matched

namespace Assembly

/-- Assemblies with one list and one scope inside blocks that match. -/
structure Matched (depth : Option Nat) (a b : Assembly) : Prop where
  nodes : a.nodes = b.nodes
  scope : a.scope = b.scope
  blocks : OpenBlock.Matched depth a.blocks b.blocks

/-! ## The end of a block -/

/-- A block with an end of its own ends alone. -/
theorem close_of_not_chained (block : OpenBlock) (h : block.chained = false) (nodes : List Node) (outer : List OpenBlock) :
    close block nodes outer = ⟨block.before ++ [block.node nodes], block.outside, outer⟩ := by
  cases outer with
  | nil => rfl
  | cons around others => rw [close, h]; rfl

/-- A block that shares its end ends with the block around it. -/
theorem close_of_chained (block : OpenBlock) (h : block.chained = true) (nodes : List Node) (around : OpenBlock)
    (others : List OpenBlock) :
    close block nodes (around :: others) = close around (block.before ++ [block.node nodes]) others := by
  rw [close, if_pos h]

/-- Blocks that match end alike, unless there is one block apart and it ends. -/
theorem close_matched {depth : Option Nat} {block block' : OpenBlock} {outer outer' : List OpenBlock}
    (h : OpenBlock.Matched depth (block :: outer) (block' :: outer')) (hdepth : depth ≠ some 0) (nodes : List Node) :
    (close block nodes outer).Matched (depth.map (· - 1)) (close block' nodes outer') := by
  induction outer generalizing block block' outer' nodes with
  | nil =>
    cases h with
    | sharing _ offset hchained h => cases h; exact ⟨rfl, rfl, .nil⟩
    | ending _ offset hchained h hdeeper => cases h; cases hdeeper; exact ⟨rfl, rfl, .nil⟩
  | cons around others ih =>
    cases h with
    | sharing _ offset hchained h =>
      cases outer' with
      | nil => cases h
      | cons around' others' =>
        rw [close_of_chained block hchained, close_of_chained { block with offset } hchained]
        exact ih h _
    | @ending _ shallower _ _ _ offset hchained h hdeeper =>
      have hdepth' : depth.map (· - 1) = shallower := by
        rw [hdeeper]
        cases shallower <;> rfl
      rw [close_of_not_chained block hchained, close_of_not_chained { block with offset } hchained, hdepth']
      exact ⟨rfl, rfl, h⟩
    | apart _ offset hchained h => exact absurd rfl hdepth

/-- Where the block apart ends on the left, on the right one more end is needed. -/
theorem close_apart {block block' : OpenBlock} {outer outer' : List OpenBlock}
    (h : OpenBlock.Matched (some 0) (block :: outer) (block' :: outer')) (nodes : List Node) :
    ∃ inner others, (close block' nodes outer').blocks = inner :: others ∧
      (close block nodes outer).Matched none (close inner (close block' nodes outer').nodes others) := by
  induction outer generalizing block block' outer' nodes with
  | nil =>
    cases h with
    | sharing _ offset hchained h => cases h
    | ending _ offset hchained h hdeeper => cases h; cases hdeeper
  | cons around others ih =>
    cases h with
    | sharing _ offset hchained h =>
      cases outer' with
      | nil => cases h
      | cons around' others' =>
        rw [close_of_chained block hchained, close_of_chained { block with offset } hchained]
        exact ih h _
    | @ending _ shallower _ _ _ offset hchained h hdeeper => cases shallower <;> cases hdeeper
    | @apart _ _ around' _ others' offset hchained h =>
      rw [close_of_chained block hchained, close_of_not_chained { block with offset, chained := false } rfl]
      exact ⟨around', others', rfl, close_matched h (by simp) _⟩

namespace Matched

variable {depth : Option Nat} {a b : Assembly}

theorem push (h : a.Matched depth b) (node : Node) : (a.push node).Matched depth (b.push node) :=
  ⟨congrArg (· ++ [node]) h.nodes, h.scope, h.blocks⟩

theorem inLoop (h : a.Matched depth b) : a.inLoop = b.inLoop :=
  h.blocks.inLoop

/-- A block that is opened in both shares an end in both, or has an end of its own in both. -/
theorem openBlock (h : a.Matched depth b) (offset offset' : Nat) (kind : BlockKind) (pipeline : Pipeline)
    (chained : Bool) :
    Alike (fun _ _ => True) (Matched (if chained then depth else depth.map (· + 1)))
      (a.openBlock offset kind pipeline chained) (b.openBlock offset' kind pipeline chained) := by
  rw [Assembly.openBlock, Assembly.openBlock, ← h.nodes, ← h.scope]
  refine (Scope.afterPipeline_alike offset offset' (.block kind) a.scope pipeline).bind fun scope _ hscope => ?_
  refine Alike.ok ⟨rfl, hscope, ?_⟩
  cases chained with
  | true => exact .sharing ⟨kind, pipeline, offset, a.nodes, none, a.scope, true⟩ offset' rfl h.blocks
  | false => exact .ending ⟨kind, pipeline, offset, a.nodes, none, a.scope, false⟩ offset' rfl h.blocks rfl

/-- An `else` is taken in both or in neither. -/
theorem beginElse (h : a.Matched depth b) (offset offset' : Nat) (chained : Option (BlockKind × Pipeline)) :
    Alike (fun _ _ => True) (Matched depth) (a.beginElse offset chained) (b.beginElse offset' chained) := by
  have hblocks := h.blocks
  rw [Assembly.beginElse, Assembly.beginElse]
  generalize a.blocks = blocks, b.blocks = blocks' at hblocks
  cases blocks with
  | nil => cases hblocks; exact Alike.error trivial
  | cons block outer =>
    cases blocks' with
    | nil => cases hblocks
    | cons block' outer' =>
      obtain ⟨hkind, hbody⟩ := hblocks.head
      have halternative : Matched depth ⟨[], a.scope, { block with body := some a.nodes } :: outer⟩
          ⟨[], b.scope, { block' with body := some b.nodes } :: outer'⟩ := by
        rw [← h.nodes]
        exact ⟨rfl, h.scope, hblocks.withBody (some a.nodes)⟩
      simp only [hbody]
      split
      · exact Alike.error trivial
      · match chained with
        | none => exact Alike.ok halternative
        | some (kind, pipeline) =>
          by_cases hsame : kind = block.kind
          · have hopen := halternative.openBlock offset offset' kind pipeline true
            simp only [if_pos hsame, if_pos (hsame.trans hkind.symm)]
            rwa [if_pos rfl] at hopen
          · have hother : kind ≠ block'.kind := fun h => hsame (h.trans hkind)
            simp only [if_neg hsame, if_neg hother]
            exact Alike.error trivial

/-- An end is taken in both or in neither. -/
theorem endBlock (h : a.Matched depth b) (hdepth : depth ≠ some 0) (offset offset' : Nat) :
    Alike (fun _ _ => True) (Matched (depth.map (· - 1))) (a.endBlock offset) (b.endBlock offset') := by
  have hblocks := h.blocks
  rw [Assembly.endBlock, Assembly.endBlock, ← h.nodes]
  generalize a.blocks = blocks, b.blocks = blocks' at hblocks
  cases blocks with
  | nil => cases hblocks; exact Alike.error trivial
  | cons block outer =>
    cases blocks' with
    | nil => cases hblocks
    | cons block' outer' => exact Alike.ok (close_matched hblocks hdepth a.nodes)

/-- One end on the left and two on the right end the block that is apart, and then only the offsets differ. -/
theorem endTwice (h : a.Matched (some 0) b) (offset offset' offset'' : Nat) :
    Alike (fun _ _ => True) (Matched none) (a.endBlock offset)
      (b.endBlock offset' >>= fun c => c.endBlock offset'') := by
  have hblocks := h.blocks
  rw [Assembly.endBlock, Assembly.endBlock, ← h.nodes]
  generalize a.blocks = blocks, b.blocks = blocks' at hblocks
  cases blocks with
  | nil => cases hblocks
  | cons block outer =>
    cases blocks' with
    | nil => cases hblocks
    | cons block' outer' =>
      obtain ⟨inner, others, hinner, hclose⟩ := close_apart hblocks a.nodes
      rw [ok_bind, Assembly.endBlock, hinner]
      exact Alike.ok hclose

end Matched

end Assembly

/-- How many ends are to come, of blocks with ends of their own, after an action before which they were as many as given. -/
def Action.depthAfter : Action → Nat → Nat
  | .opening _ _, depth => depth + 1
  | .ending, depth => depth - 1
  | _, depth => depth

/-- An action that is taken in both assemblies, at any offsets, keeps them matched. -/
theorem Assembly.Matched.addAction {depth : Option Nat} {a b : Assembly} (h : a.Matched depth b) (offset offset' : Nat)
    (action : Action) (hend : action = .ending → depth ≠ some 0) :
    Alike (fun _ _ => True) (Matched (depth.map action.depthAfter)) (a.addAction offset action)
      (b.addAction offset' action) := by
  have hplain : (∀ n, action.depthAfter n = n) → depth.map action.depthAfter = depth := by
    intro hsame
    cases depth with
    | none => rfl
    | some n => exact congrArg some (hsame n)
  match action with
  | .opening kind pipeline => exact h.openBlock offset offset' kind pipeline false
  | .ending => exact h.endBlock (hend rfl) offset offset'
  | .otherwise chained =>
    rw [hplain fun _ => rfl]
    exact h.beginElse offset offset' chained
  | .output pipeline =>
    rw [hplain fun _ => rfl, Assembly.addAction, Assembly.addAction, ← h.scope]
    refine (Scope.afterPipeline_alike offset offset' .action a.scope pipeline).bind fun scope _ hscope => ?_
    exact Alike.ok ⟨congrArg (· ++ _) h.nodes, hscope, h.blocks⟩
  | .template name (some pipeline) =>
    rw [hplain fun _ => rfl, Assembly.addAction, Assembly.addAction, ← h.scope]
    refine (Scope.afterPipeline_alike offset offset' .template a.scope pipeline).bind fun scope _ hscope => ?_
    exact Alike.ok ⟨congrArg (· ++ _) h.nodes, hscope, h.blocks⟩
  | .template name none =>
    rw [hplain fun _ => rfl]
    exact Alike.ok (h.push _)
  | .breakLoop | .continueLoop =>
    rw [hplain fun _ => rfl, Assembly.addAction, Assembly.addAction, ← h.inLoop]
    split
    · exact Alike.ok (h.push _)
    · exact Alike.error trivial
  | .definition keyword => exact Alike.error trivial

end QueryTemplate
