import QueryTemplate.Assembly

/-!
# The grammar of blocks

Which sequences of pieces make up a list of nodes, said without taking the pieces one by one: a list is a sequence of texts,
comments, plain actions and blocks (`Listed`), and behind the action that begins a block stand a list and one of three
endings (`BlockRest`). The nodes of a derivation show every piece but `else` and `end` once, in order
(`Listed.map_mark_preorderAll`).
-/

namespace QueryTemplate

/-! ## Derivations -/

/-- The nodes of a piece that is neither part of a block's frame nor begins a block. A definition has none: no source with
a definition has a tree. -/
def Piece.ownNodes : Piece → Option (List Node)
  | .text s => some [.text (String.ofList s)]
  | .comment s => some [.comment (String.ofList s)]
  | .action _ (.output pipeline) => some [.action pipeline]
  | .action _ .breakLoop => some [.breakLoop]
  | .action _ .continueLoop => some [.continueLoop]
  | .action _ (.template name argument) => some [.template name argument]
  | .action _ (.definition _) => some []
  | .action _ (.opening _ _) | .action _ (.otherwise _) | .action _ .ending => none

mutual

/-- The pieces make up a list of nodes. -/
inductive Listed : List Piece → List Node → Prop where
  | nil : Listed [] []
  | single {piece : Piece} {own nodes : List Node} {pieces : List Piece} :
      piece.ownNodes = some own → Listed pieces nodes → Listed (piece :: pieces) (own ++ nodes)
  | block {offset : Nat} {kind : BlockKind} {pipeline : Pipeline} {rest pieces : List Piece} {node : Node}
      {nodes : List Node} :
      BlockRest kind pipeline rest node → Listed pieces nodes →
      Listed (.action offset (.opening kind pipeline) :: (rest ++ pieces)) (node :: nodes)

/-- The pieces complete a block of a kind to a node: a list and an end, or two lists with `else` between them and an end, or
a list and an `else` that begins another block of the kind, which is completed by the same end. No such `else` begins a
loop. -/
inductive BlockRest : BlockKind → Pipeline → List Piece → Node → Prop where
  | ended {kind : BlockKind} {pipeline : Pipeline} {inside : List Piece} {body : List Node} {offset : Nat} :
      Listed inside body →
      BlockRest kind pipeline (inside ++ [.action offset .ending]) (.block kind pipeline body [])
  | divided {kind : BlockKind} {pipeline : Pipeline} {inside inside' : List Piece} {body otherwise : List Node}
      {offset offset' : Nat} :
      Listed inside body → Listed inside' otherwise →
      BlockRest kind pipeline (inside ++ .action offset (.otherwise none) :: (inside' ++ [.action offset' .ending]))
        (.block kind pipeline body otherwise)
  | chained {kind : BlockKind} {pipeline pipeline' : Pipeline} {inside rest : List Piece} {body : List Node} {node : Node}
      {offset : Nat} :
      kind ≠ .loop → Listed inside body → BlockRest kind pipeline' rest node →
      BlockRest kind pipeline (inside ++ .action offset (.otherwise (some (kind, pipeline'))) :: rest)
        (.block kind pipeline body [node])

end

/-- Lists that are derived one after the other are derived as one list. -/
theorem Listed.append {pieces pieces' : List Piece} {nodes nodes' : List Node} (h : Listed pieces nodes)
    (h' : Listed pieces' nodes') : Listed (pieces ++ pieces') (nodes ++ nodes') := by
  match h with
  | .nil => exact h'
  | .single hown h =>
    rw [List.cons_append, List.append_assoc]
    exact .single hown (h.append h')
  | .block hrest h =>
    rw [List.cons_append, List.append_assoc]
    exact .block hrest (h.append h')

/-- A block by itself is a list. -/
theorem Listed.ofBlock {kind : BlockKind} {pipeline : Pipeline} {rest : List Piece} {node : Node} (offset : Nat)
    (h : BlockRest kind pipeline rest node) : Listed (.action offset (.opening kind pipeline) :: rest) [node] := by
  rw [← List.append_nil rest]
  exact .block h .nil

/-! ## The order of a tree -/

/-- What a piece and a node have in common: their text, or the action that the node comes from. -/
inductive Mark where
  | text (s : String)
  | comment (s : String)
  | action (action : Action)

namespace Node

/-- What a node comes from, without what it holds. -/
def mark : Node → Mark
  | .text s => .text s
  | .comment s => .comment s
  | .action pipeline => .action (.output pipeline)
  | .block kind pipeline _ _ => .action (.opening kind pipeline)
  | .breakLoop => .action .breakLoop
  | .continueLoop => .action .continueLoop
  | .template name argument => .action (.template name argument)

mutual

/-- A node and the nodes inside it, each before what it holds, and the body of a block before its alternative. -/
def preorder : Node → List Node
  | .block kind pipeline body otherwise =>
    .block kind pipeline body otherwise :: (preorderAll body ++ preorderAll otherwise)
  | node => [node]

/-- The nodes of a list and the nodes inside them. -/
def preorderAll : List Node → List Node
  | [] => []
  | node :: nodes => node.preorder ++ preorderAll nodes

end

theorem preorderAll_append (xs ys : List Node) : preorderAll (xs ++ ys) = preorderAll xs ++ preorderAll ys := by
  induction xs with
  | nil => rfl
  | cons x xs ih => rw [List.cons_append, preorderAll, preorderAll, ih, List.append_assoc]

end Node

/-- What a piece shows in a tree: itself. An end shows nothing, and an `else` shows only the block that it begins. -/
def Piece.mark? : Piece → Option Mark
  | .text s => some (.text (String.ofList s))
  | .comment s => some (.comment (String.ofList s))
  | .action _ (.otherwise (some (kind, pipeline))) => some (.action (.opening kind pipeline))
  | .action _ (.otherwise none) | .action _ .ending => none
  | .action _ a => some (.action a)

/-- A piece that is no definition shows what its own nodes show. -/
theorem Piece.map_mark_ownNodes {piece : Piece} {own : List Node} (h : piece.ownNodes = some own)
    (hdefinition : ∀ offset word, piece ≠ .action offset (.definition word)) :
    (Node.preorderAll own).map Node.mark = piece.mark?.toList := by
  match piece, h with
  | .action offset (.definition word), _ => exact absurd rfl (hdefinition offset word)
  | .text _, h | .comment _, h | .action _ (.output _), h | .action _ .breakLoop, h | .action _ .continueLoop, h |
    .action _ (.template _ _), h =>
    cases h
    simp [Node.preorderAll, Node.preorder, Node.mark, mark?]

mutual

/-- The nodes of a list, each before what it holds, show the pieces of the list in order, each once. -/
theorem Listed.map_mark_preorderAll {pieces : List Piece} {nodes : List Node} (h : Listed pieces nodes)
    (hdefinition : ∀ offset word, .action offset (.definition word) ∉ pieces) :
    (Node.preorderAll nodes).map Node.mark = pieces.filterMap Piece.mark? := by
  match h with
  | .nil => rw [Node.preorderAll]; rfl
  | @Listed.single piece own nodes pieces hown h =>
    have hpiece := Piece.map_mark_ownNodes hown fun offset word hd => hdefinition offset word (by simp [hd])
    have hrest := h.map_mark_preorderAll fun offset word hd => hdefinition offset word (List.mem_cons_of_mem _ hd)
    rw [Node.preorderAll_append, List.map_append, hpiece, hrest, List.filterMap_cons]
    cases piece.mark? <;> rfl
  | @Listed.block _ _ _ rest pieces _ _ hrest h =>
    have hblock := hrest.map_mark_preorder fun offset word hd => hdefinition offset word (by simp [hd])
    have hafter := h.map_mark_preorderAll fun offset word hd => hdefinition offset word (by simp [hd])
    rw [Node.preorderAll, List.map_append, hblock, hafter, List.filterMap_cons, List.filterMap_append]
    rfl

/-- A block, before what it holds, shows the action that begins it and then the pieces that complete it. -/
theorem BlockRest.map_mark_preorder {kind : BlockKind} {pipeline : Pipeline} {rest : List Piece} {node : Node}
    (h : BlockRest kind pipeline rest node)
    (hdefinition : ∀ offset word, .action offset (.definition word) ∉ rest) :
    node.preorder.map Node.mark = .action (.opening kind pipeline) :: rest.filterMap Piece.mark? := by
  match h with
  | .ended h =>
    have hbody := h.map_mark_preorderAll fun offset word hd => hdefinition offset word (by simp [hd])
    simp [Node.preorder, Node.preorderAll, Node.mark, Piece.mark?, hbody]
  | .divided h h' =>
    have hbody := h.map_mark_preorderAll fun offset word hd => hdefinition offset word (by simp [hd])
    have hotherwise := h'.map_mark_preorderAll fun offset word hd => hdefinition offset word (by simp [hd])
    simp [Node.preorder, Node.mark, Piece.mark?, List.filterMap_cons, hbody, hotherwise]
  | .chained _ h hrest =>
    have hbody := h.map_mark_preorderAll fun offset word hd => hdefinition offset word (by simp [hd])
    have hotherwise := hrest.map_mark_preorder fun offset word hd => hdefinition offset word (by simp [hd])
    simp [Node.preorder, Node.preorderAll, Node.mark, Piece.mark?, hbody, hotherwise]

end

end QueryTemplate
