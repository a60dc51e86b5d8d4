import QueryTemplate.Proofs.Assembly.Nesting
import QueryTemplate.Proofs.Scope.Passed
import QueryTemplate.Proofs.Source.Items

/-!
# Trees of sources are well formed

What can be said of every node of the tree of a source, at any depth (`Node.wellFormed_of_occurs`). Part of it comes from the
pieces of the source, each of which the tree shows as it is: texts come from the splitting and pipelines from the grammar
(`Mark.IsWritten`). The other part is what putting the tree together checks (`Node.IsChecked`).
-/

namespace QueryTemplate

/-! ## Nodes at any depth -/

/-- A node stands in a list of nodes or deeper inside it. The flag tells whether it stands in the body of a loop of the
list, at any depth. -/
inductive Occurs (node : Node) : Bool → List Node → Prop where
  | here {nodes : List Node} : node ∈ nodes → Occurs node false nodes
  | body {inLoop : Bool} {kind : BlockKind} {pipeline : Pipeline} {body otherwise nodes : List Node} :
      .block kind pipeline body otherwise ∈ nodes → Occurs node inLoop body → Occurs node (kind == .loop || inLoop) nodes
  | otherwise {inLoop : Bool} {kind : BlockKind} {pipeline : Pipeline} {body otherwise nodes : List Node} :
      .block kind pipeline body otherwise ∈ nodes → Occurs node inLoop otherwise → Occurs node inLoop nodes

theorem Occurs.mono {node : Node} {inLoop : Bool} {nodes nodes' : List Node} (h : Occurs node inLoop nodes)
    (hsub : nodes ⊆ nodes') : Occurs node inLoop nodes' := by
  cases h with
  | here hnode => exact .here (hsub hnode)
  | body hblock hinner => exact .body (hsub hblock) hinner
  | otherwise hblock hinner => exact .otherwise (hsub hblock) hinner

namespace Node

theorem mem_preorder_self (node : Node) : node ∈ node.preorder := by
  cases node with
  | block kind pipeline body otherwise => exact List.mem_cons_self
  | _ => exact List.mem_singleton_self _

theorem mem_preorderAll {node inner : Node} {nodes : List Node} (h : inner ∈ node.preorder) (hnode : node ∈ nodes) :
    inner ∈ preorderAll nodes := by
  induction nodes with
  | nil => cases hnode
  | cons first nodes ih =>
    rw [preorderAll, List.mem_append]
    rcases List.mem_cons.mp hnode with rfl | hnode
    · exact Or.inl h
    · exact Or.inr (ih hnode)

end Node

/-- The nodes at any depth are those of the tree in order. -/
theorem Occurs.mem_preorderAll {node : Node} {inLoop : Bool} {nodes : List Node} (h : Occurs node inLoop nodes) :
    node ∈ Node.preorderAll nodes := by
  induction h with
  | here hnode => exact Node.mem_preorderAll node.mem_preorder_self hnode
  | body hblock _ ih =>
    refine Node.mem_preorderAll ?_ hblock
    rw [Node.preorder]
    exact List.mem_cons_of_mem _ (List.mem_append_left _ ih)
  | otherwise hblock _ ih =>
    refine Node.mem_preorderAll ?_ hblock
    rw [Node.preorder]
    exact List.mem_cons_of_mem _ (List.mem_append_right _ ih)

/-! ## What the checks say -/

/-- The checks that a node has passed, inside or outside the body of a loop. -/
def Node.IsChecked (inLoop : Bool) : Node → Prop
  | .action p => Pipeline.Passed .action p
  | .block kind p _ _ => Pipeline.Passed (.block kind) p
  | .template _ (some p) => Pipeline.Passed .template p
  | .breakLoop | .continueLoop => inLoop = true
  | _ => True

/-- What is accepted has passed its checks, at any depth. -/
theorem Accepted.isChecked {node : Node} {around inLoop : Bool} {scope last : Scope} {nodes : List Node}
    (h : Accepted around scope nodes last) (hnode : Occurs node inLoop nodes) : node.IsChecked (around || inLoop) := by
  induction hnode generalizing around scope last with
  | here hnode =>
    obtain ⟨front, rest, rfl⟩ := List.append_of_mem hnode
    obtain ⟨mid, -, h⟩ := h.split
    cases h with
    | action hpassed _ | block hpassed _ _ _ | templateOf _ hpassed _ => exact ⟨_, _, _, hpassed⟩
    | breakLoop _ | continueLoop _ => rfl
    | text _ _ | comment _ _ | template _ _ => trivial
  | body hblock _ ih =>
    obtain ⟨front, rest, rfl⟩ := List.append_of_mem hblock
    obtain ⟨mid, -, h⟩ := h.split
    cases h with
    | block _ hbody _ _ =>
      rw [← Bool.or_assoc]
      exact ih hbody
  | otherwise hblock _ ih =>
    obtain ⟨front, rest, rfl⟩ := List.append_of_mem hblock
    obtain ⟨mid, -, h⟩ := h.split
    cases h with
    | block _ _ hotherwise _ => exact ih hotherwise

/-! ## What the pieces say -/

/-- The mark of a node comes from a source: its text is not empty and holds no opening braces, its pipeline is complete. -/
def Mark.IsWritten : Mark → Prop
  | .text s => s ≠ "" ∧ ¬['{', '{'] <:+: s.toList
  | .action a => a.IsComplete
  | .comment _ => True

/-- The piece of an action shows an action whose pipeline was read. -/
theorem Piece.isRead_of_mark {offset : Nat} {body : List Char} {piece : Piece} {m : Mark}
    (hpiece : ofItem (.action offset body) = .ok piece) (hm : piece.mark? = some m) : ∃ a, m = .action a ∧ a.IsRead := by
  rw [ofItem] at hpiece
  split at hpiece
  · rename_i a hbody
    cases hpiece
    have hread := Action.isRead_of_ofBody hbody
    cases a with
    | otherwise chained =>
      cases chained with
      | none => cases hm
      | some chained =>
        cases hm
        exact ⟨_, rfl, Action.isRead_of_some rfl (hread chained.2 rfl)⟩
    | output _ | opening _ _ | breakLoop | continueLoop | template _ _ | definition _ =>
      cases hm
      exact ⟨_, rfl, hread⟩
    | _ => cases hm
  · cases hpiece

/-- The pieces of a source show marks that come from the source. -/
theorem Piece.isWritten {offset : Nat} {trims : Bool} {source : List Char} {items : List Item} {item : Item} {piece : Piece}
    {m : Mark} (hitems : Item.scan offset trims source = .ok items) (hitem : item ∈ items) (hpiece : ofItem item = .ok piece)
    (hm : piece.mark? = some m) : m.IsWritten := by
  cases item with
  | text s =>
    cases hpiece
    cases hm
    obtain ⟨hne, hbraces⟩ := Item.text_of_scan hitems hitem
    exact ⟨fun h => hne (String.ofList_eq_empty_iff.mp h), by rwa [String.toList_ofList]⟩
  | comment s =>
    cases hpiece
    cases hm
    trivial
  | action offset body =>
    obtain ⟨a, rfl, hread⟩ := isRead_of_mark hpiece hm
    exact hread.isComplete

/-- The actions of the items of a tree can all be read. -/
theorem Node.exists_pieces {items : List Item} {nodes : List Node} (h : ofItems items = .ok nodes) :
    ∃ pieces, items.mapM Piece.ofItem = .ok pieces := by
  obtain ⟨a, ha, -⟩ := bind_eq_ok.mp h
  refine foldlM_extends (P := fun done _ => ∃ pieces, done.mapM Piece.ofItem = .ok pieces) ?_ ⟨[], rfl⟩ ha
  rintro done b item b' - ⟨pieces, hpieces⟩ hstep
  obtain ⟨piece, hpiece, -⟩ := bind_eq_ok.mp hstep
  refine ⟨pieces ++ [piece], ?_⟩
  rw [List.mapM_append, hpieces, ok_bind, List.mapM_cons, hpiece, ok_bind]
  rfl

/-- Every node of the tree of a source shows what a piece of the source shows. -/
theorem Node.exists_item_of_parse {source : String} {nodes : List Node} (h : parse source = .ok nodes) {node : Node}
    (hnode : node ∈ preorderAll nodes) : ∃ items item piece, Item.ofSource source.toList = .ok items ∧ item ∈ items ∧
      Piece.ofItem item = .ok piece ∧ piece.mark? = some node.mark := by
  obtain ⟨items, hitems, h⟩ := bind_eq_ok.mp h
  obtain ⟨pieces, hpieces⟩ := exists_pieces h
  rw [ofItems_eq hpieces] at h
  obtain ⟨hlisted, hdefinition⟩ := listed_of_finish hpieces h
  have hmark : node.mark ∈ pieces.filterMap Piece.mark? := by
    rw [← hlisted.map_mark_preorderAll hdefinition]
    exact List.mem_map_of_mem hnode
  obtain ⟨piece, hpiece, hm⟩ := List.mem_filterMap.mp hmark
  obtain ⟨item, hitem, hread⟩ := mem_of_mapM_eq_ok hpieces hpiece
  exact ⟨items, item, piece, hitems, hitem, hread, hm⟩

/-- Every node of the tree of a source has a mark that comes from the source. -/
theorem Node.isWritten_of_parse {source : String} {nodes : List Node} (h : parse source = .ok nodes) {node : Node}
    (hnode : node ∈ preorderAll nodes) : node.mark.IsWritten := by
  obtain ⟨items, item, piece, hitems, hitem, hread, hm⟩ := exists_item_of_parse h hnode
  exact Piece.isWritten hitems hitem hread hm

/-! ## The tree -/

namespace Pipeline

/-- A pipeline is complete and can be run, and so is every pipeline in its parentheses. -/
def IsWellFormed (place : PipelinePlace) (p : Pipeline) : Prop :=
  ∀ place' q, Contains place p place' q → IsComplete q ∧ IsRunnable place' q

end Pipeline

/-- What can be said of a node in the tree of a source, inside or outside the body of a loop. -/
def Node.IsWellFormed (inLoop : Bool) : Node → Prop
  | .text s => s ≠ "" ∧ ¬['{', '{'] <:+: s.toList
  | .action p => Pipeline.IsWellFormed .action p
  | .block kind p _ _ => Pipeline.IsWellFormed (.block kind) p
  | .template _ (some p) => Pipeline.IsWellFormed .template p
  | .breakLoop | .continueLoop => inLoop = true
  | .comment _ | .template _ none => True

theorem Pipeline.isWellFormed_of {place : PipelinePlace} {p : Pipeline} (hcomplete : IsCompleteWithin p)
    (hpassed : Passed place p) : IsWellFormed place p :=
  fun place' q hq => ⟨hcomplete place place' q hq, isRunnable_of_passed (hpassed.contains hq)⟩

/-- Every node in the tree of a source is well formed, at any depth. -/
theorem Node.wellFormed_of_occurs {source : String} {nodes : List Node} (h : parse source = .ok nodes) {node : Node}
    {inLoop : Bool} (hnode : Occurs node inLoop nodes) : node.IsWellFormed inLoop := by
  have hwritten := isWritten_of_parse h hnode.mem_preorderAll
  obtain ⟨last, haccepted⟩ := accepted_of_parse h
  have hchecked := haccepted.isChecked hnode
  rw [Bool.false_or] at hchecked
  match node with
  | .text s => exact hwritten
  | .action p => exact Pipeline.isWellFormed_of (hwritten p rfl) hchecked
  | .block kind p _ _ => exact Pipeline.isWellFormed_of (hwritten p rfl) hchecked
  | .template _ (some p) => exact Pipeline.isWellFormed_of (hwritten p rfl) hchecked
  | .breakLoop | .continueLoop => exact hchecked
  | .comment _ | .template _ none => trivial

end QueryTemplate
