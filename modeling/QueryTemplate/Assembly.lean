import QueryTemplate.Action.Grammar
import QueryTemplate.Scope
import QueryTemplate.Source.Item

/-!
# Putting the tree together

The pieces of a source are taken one by one. An assembly holds what has been put together so far: the nodes of the list
that is being filled, the names in scope, and the blocks whose end is still to come, the innermost first.

`else` with the beginning of another block puts that block, alone, into the alternative of the block around it, and the
two share one end.
-/

namespace QueryTemplate

/-- An item of a source whose action has been read. -/
inductive Piece where
  | text (s : List Char)
  | comment (s : List Char)
  | action (offset : Nat) (action : Action)
deriving DecidableEq

namespace Piece

/-- Reads the action of an item. -/
def ofItem : Item → Except Error Piece
  | .text s => .ok (.text s)
  | .comment s => .ok (.comment s)
  | .action offset body =>
    match Action.ofBody body with
    | .ok a => .ok (.action offset a)
    | .error (place, cause) => .error (.parse (offset + place) cause)

end Piece

/-- A block whose end is still to come. -/
structure OpenBlock where
  kind : BlockKind
  pipeline : Pipeline
  /-- The offset of the action that opened the block. -/
  offset : Nat
  /-- The nodes before the block in the list that it stands in. -/
  before : List Node
  /-- The body, once an `else` has ended it. -/
  body : Option (List Node)
  /-- The scope outside the block. -/
  outside : Scope
  /-- Whether the block stands in the `else` of the block around it and shares its end. -/
  chained : Bool

namespace OpenBlock

/-- The node that a block becomes when its last list is complete. -/
def node (block : OpenBlock) (nodes : List Node) : Node :=
  match block.body with
  | none => .block block.kind block.pipeline nodes []
  | some body => .block block.kind block.pipeline body nodes

end OpenBlock

/-- A tree that is being put together. -/
structure Assembly where
  /-- The list that is being filled. -/
  nodes : List Node
  scope : Scope
  /-- The blocks around that list, the innermost first. -/
  blocks : List OpenBlock

namespace Assembly

/-- Nothing yet, and the parameter in scope. -/
def empty : Assembly :=
  ⟨[], [rootName], []⟩

/-- One more node in the list that is being filled. -/
def push (a : Assembly) (node : Node) : Assembly :=
  { a with nodes := a.nodes ++ [node] }

/-- Whether some block around the list is a loop of which this is the body. -/
def inLoop (a : Assembly) : Bool :=
  a.blocks.any fun block => block.kind == .loop && block.body.isNone

/-- Opens a block. -/
def openBlock (a : Assembly) (offset : Nat) (kind : BlockKind) (pipeline : Pipeline) (chained : Bool) :
    Except Error Assembly := do
  let scope ← Scope.afterPipeline offset (.block kind) a.scope pipeline
  return ⟨[], scope, ⟨kind, pipeline, offset, a.nodes, none, a.scope, chained⟩ :: a.blocks⟩

/-- Ends the body of the innermost block and begins its alternative. -/
def beginElse (a : Assembly) (offset : Nat) (chained : Option (BlockKind × Pipeline)) : Except Error Assembly :=
  match a.blocks with
  | [] => .error (.parse offset .unexpectedElse)
  | block :: outer =>
    if block.body.isSome then .error (.parse offset .repeatedElse)
    else
      let alternative : Assembly := ⟨[], a.scope, { block with body := some a.nodes } :: outer⟩
      match chained with
      | none => .ok alternative
      | some (kind, pipeline) =>
        if kind = block.kind then alternative.openBlock offset kind pipeline true
        else .error (.parse offset (.mismatchedElse kind block.kind))

/-- The assembly after the end of a block whose last list is complete, inside the given blocks. -/
def close (block : OpenBlock) (nodes : List Node) : List OpenBlock → Assembly
  | [] => ⟨block.before ++ [block.node nodes], block.outside, []⟩
  | outer :: others =>
    if block.chained then close outer (block.before ++ [block.node nodes]) others
    else ⟨block.before ++ [block.node nodes], block.outside, outer :: others⟩

/-- Ends the innermost block, and with a chained block the block around it. -/
def endBlock (a : Assembly) (offset : Nat) : Except Error Assembly :=
  match a.blocks with
  | [] => .error (.parse offset .unexpectedEnd)
  | block :: outer => .ok (close block a.nodes outer)

/-- Takes an action that stands at an offset. -/
def addAction (a : Assembly) (offset : Nat) : Action → Except Error Assembly
  | .output pipeline => do
    let scope ← Scope.afterPipeline offset .action a.scope pipeline
    return { a with scope }.push (.action pipeline)
  | .opening kind pipeline => a.openBlock offset kind pipeline false
  | .otherwise chained => a.beginElse offset chained
  | .ending => a.endBlock offset
  | .breakLoop => if a.inLoop then .ok (a.push .breakLoop) else .error (.parse offset .breakOutsideLoop)
  | .continueLoop => if a.inLoop then .ok (a.push .continueLoop) else .error (.parse offset .continueOutsideLoop)
  | .template name none => .ok (a.push (.template name none))
  | .template name (some pipeline) => do
    let scope ← Scope.afterPipeline offset .template a.scope pipeline
    return { a with scope }.push (.template name (some pipeline))
  | .definition keyword => .error (.parse offset (.definition keyword))

/-- Takes a piece. -/
def add (a : Assembly) : Piece → Except Error Assembly
  | .text s => .ok (a.push (.text (String.ofList s)))
  | .comment s => .ok (a.push (.comment (String.ofList s)))
  | .action offset action => a.addAction offset action

/-- The tree, if no block is open. -/
def finish (a : Assembly) : Except Error (List Node) :=
  match a.blocks with
  | [] => .ok a.nodes
  | block :: _ => .error (.parse block.offset .unclosedBlock)

end Assembly

/-- The tree of some items. An action is read when its turn comes, so the first item with a fault decides the error. -/
def Node.ofItems (items : List Item) : Except Error (List Node) := do
  let assembly ← items.foldlM (fun a item => do a.add (← Piece.ofItem item)) Assembly.empty
  assembly.finish

/-- The tree of a source, or what is wrong with the source. -/
def Node.parse (source : String) : Except Error (List Node) := do
  Node.ofItems (← Item.ofSource source.toList)

end QueryTemplate
