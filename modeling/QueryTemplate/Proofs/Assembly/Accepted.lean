import QueryTemplate.Assembly
import QueryTemplate.Proofs.Outcome

/-!
# Accepted trees

What putting a tree together checks, said about the finished tree: every pipeline passed its check in the scope of its
place, and `break` and `continue` stand in bodies of loops (`Accepted`). Every tree that a source has is accepted
(`accepted_of_parse`). The statement about a tree under construction is `Filling`: each piece keeps it.
-/

namespace QueryTemplate

/-- The nodes of a list pass their checks one after the other, inside or outside the body of a loop, and lead from one
scope to another. The variables of a block stay in scope in its alternative and end with the block. -/
inductive Accepted : Bool → Scope → List Node → Scope → Prop where
  | nil {inLoop : Bool} {scope : Scope} : Accepted inLoop scope [] scope
  | text {inLoop : Bool} {scope last : Scope} {nodes : List Node} (s : String) :
      Accepted inLoop scope nodes last → Accepted inLoop scope (.text s :: nodes) last
  | comment {inLoop : Bool} {scope last : Scope} {nodes : List Node} (s : String) :
      Accepted inLoop scope nodes last → Accepted inLoop scope (.comment s :: nodes) last
  | action {inLoop : Bool} {scope mid last : Scope} {nodes : List Node} {pipeline : Pipeline} {offset : Nat} :
      Scope.afterPipeline offset .action scope pipeline = .ok mid → Accepted inLoop mid nodes last →
      Accepted inLoop scope (.action pipeline :: nodes) last
  | breakLoop {scope last : Scope} {nodes : List Node} :
      Accepted true scope nodes last → Accepted true scope (.breakLoop :: nodes) last
  | continueLoop {scope last : Scope} {nodes : List Node} :
      Accepted true scope nodes last → Accepted true scope (.continueLoop :: nodes) last
  | template {inLoop : Bool} {scope last : Scope} {nodes : List Node} (name : String) :
      Accepted inLoop scope nodes last → Accepted inLoop scope (.template name none :: nodes) last
  | templateOf {inLoop : Bool} {scope mid last : Scope} {nodes : List Node} {pipeline : Pipeline} {offset : Nat}
      (name : String) :
      Scope.afterPipeline offset .template scope pipeline = .ok mid → Accepted inLoop mid nodes last →
      Accepted inLoop scope (.template name (some pipeline) :: nodes) last
  | block {inLoop : Bool} {scope inner mid afterwards last : Scope} {body otherwise nodes : List Node}
      {kind : BlockKind} {pipeline : Pipeline} {offset : Nat} :
      Scope.afterPipeline offset (.block kind) scope pipeline = .ok inner →
      Accepted (inLoop || kind == .loop) inner body mid → Accepted inLoop mid otherwise afterwards →
      Accepted inLoop scope nodes last → Accepted inLoop scope (.block kind pipeline body otherwise :: nodes) last

/-- Lists that are accepted one after the other are accepted as one list. -/
theorem Accepted.append {inLoop : Bool} {scope mid last : Scope} {xs ys : List Node}
    (h : Accepted inLoop scope xs mid) (h' : Accepted inLoop mid ys last) : Accepted inLoop scope (xs ++ ys) last := by
  induction h with
  | nil => exact h'
  | text s _ ih => exact Accepted.text s (ih h')
  | comment s _ ih => exact Accepted.comment s (ih h')
  | action hp _ ih => exact Accepted.action hp (ih h')
  | breakLoop _ ih => exact Accepted.breakLoop (ih h')
  | continueLoop _ ih => exact Accepted.continueLoop (ih h')
  | template name _ ih => exact Accepted.template name (ih h')
  | templateOf name hp _ ih => exact Accepted.templateOf name hp (ih h')
  | block hp hb ho _ _ _ ih => exact Accepted.block hp hb ho (ih h')

/-- A list in two parts that is accepted is accepted part by part. -/
theorem Accepted.split {inLoop : Bool} {scope last : Scope} {xs ys : List Node}
    (h : Accepted inLoop scope (xs ++ ys) last) :
    ∃ mid, Accepted inLoop scope xs mid ∧ Accepted inLoop mid ys last := by
  induction xs generalizing scope with
  | nil => exact ⟨scope, Accepted.nil, h⟩
  | cons x xs ih =>
    cases h with
    | text s h => obtain ⟨mid, h1, h2⟩ := ih h; exact ⟨mid, Accepted.text s h1, h2⟩
    | comment s h => obtain ⟨mid, h1, h2⟩ := ih h; exact ⟨mid, Accepted.comment s h1, h2⟩
    | action hp h => obtain ⟨mid, h1, h2⟩ := ih h; exact ⟨mid, Accepted.action hp h1, h2⟩
    | breakLoop h => obtain ⟨mid, h1, h2⟩ := ih h; exact ⟨mid, Accepted.breakLoop h1, h2⟩
    | continueLoop h => obtain ⟨mid, h1, h2⟩ := ih h; exact ⟨mid, Accepted.continueLoop h1, h2⟩
    | template name h => obtain ⟨mid, h1, h2⟩ := ih h; exact ⟨mid, Accepted.template name h1, h2⟩
    | templateOf name hp h => obtain ⟨mid, h1, h2⟩ := ih h; exact ⟨mid, Accepted.templateOf name hp h1, h2⟩
    | block hp hb ho h => obtain ⟨mid, h1, h2⟩ := ih h; exact ⟨mid, Accepted.block hp hb ho h1, h2⟩

/-! ## A tree under construction -/

/-- Whether one of the open blocks is a loop whose body is being filled. -/
def loopOpen (blocks : List OpenBlock) : Bool :=
  blocks.any fun block => block.kind == .loop && block.body.isNone

/-- The list that is being filled inside open blocks is accepted so far, and so is what stands around it. -/
inductive Filling : List OpenBlock → List Node → Scope → Prop where
  | top {nodes : List Node} {scope : Scope} : Accepted false [rootName] nodes scope → Filling [] nodes scope
  | body {block : OpenBlock} {outer : List OpenBlock} {inner scope : Scope} {nodes : List Node} :
      Filling outer block.before block.outside →
      Scope.afterPipeline block.offset (.block block.kind) block.outside block.pipeline = .ok inner →
      block.body = none → Accepted (loopOpen outer || block.kind == .loop) inner nodes scope →
      Filling (block :: outer) nodes scope
  | alternative {block : OpenBlock} {outer : List OpenBlock} {inner mid scope : Scope} {body nodes : List Node} :
      Filling outer block.before block.outside →
      Scope.afterPipeline block.offset (.block block.kind) block.outside block.pipeline = .ok inner →
      block.body = some body → Accepted (loopOpen outer || block.kind == .loop) inner body mid →
      Accepted (loopOpen outer) mid nodes scope → Filling (block :: outer) nodes scope

/-- Nodes that are accepted after the list may be added to it. -/
theorem Filling.append {blocks : List OpenBlock} {xs ys : List Node} {scope last : Scope}
    (h : Filling blocks xs scope) (hys : Accepted (loopOpen blocks) scope ys last) : Filling blocks (xs ++ ys) last := by
  cases h with
  | top h => exact Filling.top (h.append hys)
  | @body block outer _ _ _ hb hp hnone h =>
    refine Filling.body hb hp hnone (h.append ?_)
    have hloop : loopOpen (block :: outer) = (loopOpen outer || block.kind == .loop) := by
      simp [loopOpen, hnone, Bool.or_comm]
    exact hloop ▸ hys
  | @alternative block outer _ _ _ _ _ hb hp hsome hbody h =>
    refine Filling.alternative hb hp hsome hbody (h.append ?_)
    have hloop : loopOpen (block :: outer) = loopOpen outer := by
      simp [loopOpen, hsome]
    exact hloop ▸ hys

/-- The node that a complete block becomes is accepted where the block stands. -/
theorem Filling.node {block : OpenBlock} {outer : List OpenBlock} {nodes : List Node} {scope : Scope}
    (h : Filling (block :: outer) nodes scope) :
    Filling outer (block.before ++ [block.node nodes]) block.outside := by
  cases h with
  | body hb hp hnone h =>
    refine hb.append ?_
    rw [OpenBlock.node, hnone]
    exact Accepted.block hp h Accepted.nil Accepted.nil
  | alternative hb hp hsome hbody h =>
    refine hb.append ?_
    rw [OpenBlock.node, hsome]
    exact Accepted.block hp hbody h Accepted.nil

/-- Ending a block, and the blocks that share its end, keeps the statement about the tree under construction. -/
theorem Filling.close {block : OpenBlock} {outer : List OpenBlock} {nodes : List Node} {scope : Scope}
    (h : Filling (block :: outer) nodes scope) :
    Filling (Assembly.close block nodes outer).blocks (Assembly.close block nodes outer).nodes
      (Assembly.close block nodes outer).scope := by
  induction outer generalizing block nodes scope with
  | nil => exact h.node
  | cons next others ih =>
    rw [Assembly.close]
    split
    · exact ih h.node
    · exact h.node

/-- Opening a block begins its body. -/
theorem Filling.openBlock {a b : Assembly} {offset : Nat} {kind : BlockKind} {pipeline : Pipeline} {chained : Bool}
    (h : Filling a.blocks a.nodes a.scope) (hab : a.openBlock offset kind pipeline chained = .ok b) :
    Filling b.blocks b.nodes b.scope := by
  obtain ⟨inner, hinner, hb⟩ := bind_eq_ok.mp hab
  cases hb
  exact Filling.body h hinner rfl Accepted.nil

/-- The `else` of a block ends its body and begins its alternative. -/
theorem Filling.beginElse {a b : Assembly} {offset : Nat} {chained : Option (BlockKind × Pipeline)}
    (h : Filling a.blocks a.nodes a.scope) (hab : a.beginElse offset chained = .ok b) :
    Filling b.blocks b.nodes b.scope := by
  unfold Assembly.beginElse at hab
  split at hab
  · cases hab
  · rename_i block outer hblocks
    rw [hblocks] at h
    split at hab
    · cases hab
    · rename_i hbody
      have halternative : Filling ({ block with body := some a.nodes } :: outer) [] a.scope := by
        cases h with
        | body hb hp _ h => exact Filling.alternative hb hp rfl h Accepted.nil
        | alternative _ _ hsome _ _ => simp [hsome] at hbody
      split at hab
      · cases hab
        exact halternative
      · split at hab
        · exact Filling.openBlock halternative hab
        · cases hab

/-- Every action keeps the statement about the tree under construction. -/
theorem Filling.addAction {a b : Assembly} {offset : Nat} {action : Action} (h : Filling a.blocks a.nodes a.scope)
    (hab : a.addAction offset action = .ok b) : Filling b.blocks b.nodes b.scope := by
  cases action with
  | output pipeline =>
    obtain ⟨scope, hscope, hb⟩ := bind_eq_ok.mp hab
    cases hb
    exact h.append (Accepted.action hscope Accepted.nil)
  | opening kind pipeline => exact h.openBlock hab
  | otherwise chained => exact h.beginElse hab
  | ending =>
    rw [Assembly.addAction, Assembly.endBlock] at hab
    split at hab
    · cases hab
    · rename_i block outer hblocks
      cases hab
      rw [hblocks] at h
      exact h.close
  | breakLoop =>
    rw [Assembly.addAction] at hab
    split at hab
    · rename_i hloop
      cases hab
      exact h.append (by rw [show loopOpen a.blocks = true from hloop]; exact Accepted.breakLoop Accepted.nil)
    · cases hab
  | continueLoop =>
    rw [Assembly.addAction] at hab
    split at hab
    · rename_i hloop
      cases hab
      exact h.append (by rw [show loopOpen a.blocks = true from hloop]; exact Accepted.continueLoop Accepted.nil)
    · cases hab
  | template name argument =>
    cases argument with
    | none =>
      cases hab
      exact h.append (Accepted.template name Accepted.nil)
    | some pipeline =>
      obtain ⟨scope, hscope, hb⟩ := bind_eq_ok.mp hab
      cases hb
      exact h.append (Accepted.templateOf name hscope Accepted.nil)
  | definition keyword => cases hab

/-- Every piece keeps the statement about the tree under construction. -/
theorem Filling.add {a b : Assembly} {piece : Piece} (h : Filling a.blocks a.nodes a.scope) (hab : a.add piece = .ok b) :
    Filling b.blocks b.nodes b.scope := by
  cases piece with
  | text s =>
    cases hab
    exact h.append (Accepted.text _ Accepted.nil)
  | comment s =>
    cases hab
    exact h.append (Accepted.comment _ Accepted.nil)
  | action offset action => exact h.addAction hab

/-- The tree of a source is accepted, with the parameter in scope. -/
theorem accepted_of_parse {source : String} {nodes : List Node} (h : Node.parse source = .ok nodes) :
    ∃ scope, Accepted false [rootName] nodes scope := by
  obtain ⟨items, _, h⟩ := bind_eq_ok.mp h
  obtain ⟨a, ha, h⟩ := bind_eq_ok.mp h
  have hfilling : Filling a.blocks a.nodes a.scope := by
    refine foldlM_extends (P := fun _ a => Filling a.blocks a.nodes a.scope) ?_ (Filling.top Accepted.nil) ha
    intro _ b item b' _ hb hstep
    obtain ⟨piece, _, hadd⟩ := bind_eq_ok.mp hstep
    exact hb.add hadd
  rw [Assembly.finish] at h
  split at h
  · rename_i hblocks
    cases h
    rw [hblocks] at hfilling
    cases hfilling with
    | top haccepted => exact ⟨_, haccepted⟩
  · cases h

end QueryTemplate
