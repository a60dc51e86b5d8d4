import QueryTemplate.Proofs.Assembly.Accepted
import QueryTemplate.Proofs.Assembly.Step

/-!
# What the pieces taken so far derive

While a tree is being put together, the pieces taken so far derive the lists that are complete, and end inside the blocks
that are open (`Built`). Every piece keeps this (`Built.add`), so a tree that is finished is derived from its pieces
(`listed_of_finish`).
-/

namespace QueryTemplate

mutual

/-- The pieces lead into open blocks, the innermost first, and derive the list that is being filled there. -/
inductive Built : List Piece → List OpenBlock → List Node → Prop where
  | top {pieces : List Piece} {nodes : List Node} : Listed pieces nodes → Built pieces [] nodes
  | body {block : OpenBlock} {outer : List OpenBlock} {pieces inside : List Piece} {nodes : List Node} :
      Opened pieces block outer → block.body = none → Listed inside nodes → Built (pieces ++ inside) (block :: outer) nodes
  | alternative {block : OpenBlock} {outer : List OpenBlock} {pieces inside inside' : List Piece} {body nodes : List Node}
      {offset : Nat} :
      Opened pieces block outer → block.body = some body → Listed inside body → Listed inside' nodes →
      Built (pieces ++ (inside ++ .action offset (.otherwise none) :: inside')) (block :: outer) nodes

/-- The pieces end with the beginning of a block inside open blocks: an action of its own behind the nodes before the block,
or the `else` of the block around it, if this is no loop. -/
inductive Opened : List Piece → OpenBlock → List OpenBlock → Prop where
  | opening (block : OpenBlock) {outer : List OpenBlock} {pieces : List Piece} {offset : Nat} :
      Built pieces outer block.before → block.chained = false →
      Opened (pieces ++ [.action offset (.opening block.kind block.pipeline)]) block outer
  | chained (block : OpenBlock) {around : OpenBlock} {outer : List OpenBlock} {pieces inside : List Piece}
      {body : List Node} {offset : Nat} :
      Opened pieces around outer → around.body = some body → Listed inside body → block.kind = around.kind →
      block.kind ≠ .loop → block.before = [] → block.chained = true →
      Opened (pieces ++ (inside ++ [.action offset (.otherwise (some (block.kind, block.pipeline)))])) block
        (around :: outer)

end

/-- Where a block begins does not depend on how far it has been filled. -/
theorem Opened.withBody {block : OpenBlock} {outer : List OpenBlock} {pieces : List Piece}
    (h : Opened pieces block outer) (body : Option (List Node)) : Opened pieces { block with body } outer := by
  cases h with
  | opening _ hbefore hchained => exact .opening { block with body } hbefore hchained
  | chained _ haround hbody hinside hkind hloop hbefore hchained =>
    exact .chained { block with body } haround hbody hinside hkind hloop hbefore hchained

/-- Pieces that derive a list may follow. -/
theorem Built.append {pieces more : List Piece} {blocks : List OpenBlock} {nodes nodes' : List Node}
    (h : Built pieces blocks nodes) (hmore : Listed more nodes') : Built (pieces ++ more) blocks (nodes ++ nodes') := by
  cases h with
  | top h => exact .top (h.append hmore)
  | body hopened hbody h =>
    rw [List.append_assoc]
    exact .body hopened hbody (h.append hmore)
  | alternative hopened hbody hinside h =>
    rw [List.append_assoc, List.append_assoc, List.cons_append]
    exact .alternative hopened hbody hinside (h.append hmore)

/-- A block that is complete is a node of the list around it, and with a chained block the block around it is complete. -/
theorem Opened.close {block : OpenBlock} {outer : List OpenBlock} {pieces rest : List Piece} {nodes : List Node}
    (h : Opened pieces block outer) (hrest : BlockRest block.kind block.pipeline rest (block.node nodes)) :
    Built (pieces ++ rest) (Assembly.close block nodes outer).blocks (Assembly.close block nodes outer).nodes := by
  induction outer generalizing block pieces rest nodes with
  | nil =>
    cases h with
    | opening _ hbefore _ =>
      rw [List.append_assoc]
      exact hbefore.append (.ofBlock _ hrest)
  | cons around others ih =>
    cases h with
    | opening _ hbefore hchained =>
      rw [List.append_assoc, Assembly.close, hchained]
      exact hbefore.append (.ofBlock _ hrest)
    | chained _ haround hbody hinside hkind hloop hbefore hchained =>
      -- what completes the block around this one: what stood in it, the `else` and the rest of this block
      rw [Assembly.close, hchained, hbefore, List.append_assoc, List.append_assoc]
      refine ih haround ?_
      rw [List.nil_append, OpenBlock.node_of_some hbody, ← hkind]
      exact .chained hloop hinside hrest

/-- Opening a block by an action of its own. -/
theorem Built.openBlock {a b : Assembly} {done : List Piece} {offset : Nat} {kind : BlockKind} {pipeline : Pipeline}
    (h : Built done a.blocks a.nodes) (hab : a.openBlock offset kind pipeline false = .ok b) :
    Built (done ++ [.action offset (.opening kind pipeline)]) b.blocks b.nodes := by
  obtain ⟨hnodes, hblocks⟩ := (Assembly.proceeds_openBlock a offset kind pipeline false).of_eq_ok hab
  rw [hnodes, hblocks, ← List.append_nil (done ++ _)]
  exact .body (.opening ⟨kind, pipeline, offset, a.nodes, none, a.scope, false⟩ h rfl) rfl .nil

/-- The `else` of a block, which begins no loop. -/
theorem Built.beginElse {a b : Assembly} {done : List Piece} {offset : Nat} {chained : Option (BlockKind × Pipeline)}
    (h : Built done a.blocks a.nodes) (hloop : ∀ p, chained ≠ some (.loop, p))
    (hab : a.beginElse offset chained = .ok b) :
    Built (done ++ [.action offset (.otherwise chained)]) b.blocks b.nodes := by
  obtain ⟨block, outer, hblocks, hbody, hchained⟩ := Assembly.beginElse_eq_ok hab
  rw [hblocks] at h
  cases h with
  | alternative _ hsome => rw [hbody] at hsome; cases hsome
  | body hopened _ hinside =>
    rw [List.append_assoc]
    obtain ⟨rfl, rfl⟩ | ⟨pipeline, rfl, hopen⟩ := hchained
    · exact .alternative (hopened.withBody (some a.nodes)) rfl hinside .nil
    · obtain ⟨hnodes, hopenBlocks⟩ := (Assembly.proceeds_openBlock _ offset block.kind pipeline true).of_eq_ok hopen
      have hnoLoop : block.kind ≠ .loop := fun hkind => hloop pipeline (by rw [hkind])
      rw [hnodes, hopenBlocks, ← List.append_nil (_ ++ _)]
      exact .body (.chained ⟨block.kind, pipeline, offset, [], none, a.scope, true⟩ (hopened.withBody (some a.nodes)) rfl
        hinside rfl hnoLoop rfl rfl) rfl .nil

/-- The end of a block. -/
theorem Built.endBlock {a b : Assembly} {done : List Piece} {offset : Nat} (h : Built done a.blocks a.nodes)
    (hab : a.endBlock offset = .ok b) : Built (done ++ [.action offset .ending]) b.blocks b.nodes := by
  rw [Assembly.endBlock] at hab
  split at hab
  · cases hab
  · rename_i block outer hblocks
    cases hab
    rw [hblocks] at h
    cases h with
    | body hopened hbody hinside =>
      rw [List.append_assoc]
      refine hopened.close ?_
      rw [OpenBlock.node_of_none hbody]
      exact .ended hinside
    | alternative hopened hbody hinside hinside' =>
      rw [List.append_assoc, List.append_assoc]
      refine hopened.close ?_
      rw [OpenBlock.node_of_some hbody]
      exact .divided hinside hinside'

/-- Every piece keeps the statement about the pieces taken so far. -/
theorem Built.add {a b : Assembly} {done : List Piece} {piece : Piece} (h : Built done a.blocks a.nodes)
    (hloop : ∀ offset p, piece ≠ .action offset (.otherwise (some (.loop, p)))) (hab : a.add piece = .ok b) :
    Built (done ++ [piece]) b.blocks b.nodes := by
  cases hown : piece.ownNodes with
  | some own =>
    obtain ⟨hnodes, hblocks⟩ := (Assembly.proceeds_add hown a).of_eq_ok hab
    rw [hnodes, hblocks, ← List.append_nil own]
    exact h.append (.single hown .nil)
  | none =>
    match piece, hown with
    | .action offset (.opening kind pipeline), _ => exact h.openBlock hab
    | .action offset (.otherwise chained), _ =>
      exact h.beginElse (fun p hchained => hloop offset p (by rw [hchained])) hab
    | .action offset .ending, _ => exact h.endBlock hab

end QueryTemplate
