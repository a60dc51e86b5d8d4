import QueryTemplate.Proofs.Assembly.Matched
import QueryTemplate.Proofs.Assembly.Step
import QueryTemplate.Template

/-!
# An `else` that begins a block, written out

An `else` that begins another block can be written as two actions, the `else` and the beginning of the block, if the end
that both blocks share is written twice (`Item.doubleEnd`). The items in both spellings have one tree, or none
(`Node.chained_else_written_out`): the first assembly has the block share an end, the second has it apart, and else they
match (`Assembly.Matched`).
-/

namespace QueryTemplate

/-- The kinds of the open blocks after an action, the innermost first. What an `else` begins is of the kind of the block that
it goes on with, and both count as one block. -/
def Action.kindsAfter (kinds : List BlockKind) : Action → List BlockKind
  | .opening kind _ => kind :: kinds
  | .ending => kinds.tail
  | _ => kinds

namespace Item

/-- The item as if it began the source. -/
def unplaced : Item → Item
  | .action _ body => .action 0 body
  | item => item

/-- The action of an item, if it is one and can be read. -/
def action? : Item → Option Action
  | .action _ body => (Action.ofBody body).toOption
  | _ => none

/-- Whether an item ends a block. -/
def isEnding (item : Item) : Bool :=
  match item.action? with
  | some .ending => true
  | _ => false

/-- How many ends are to come after an item. -/
def depthAfter (item : Item) (depth : Nat) : Nat :=
  match item.action? with
  | some taken => taken.depthAfter depth
  | none => depth

/-- The items with one of the ends written twice: the one that the given number of ends come before, besides those of the
blocks that the items open. -/
def doubleEnd (depth : Nat) : List Item → List Item
  | [] => []
  | item :: items =>
    if item.isEnding && depth == 0 then item :: item :: items
    else item :: doubleEnd (item.depthAfter depth) items

/-- The kinds of the open blocks after an item. -/
def kindsAfter (kinds : List BlockKind) (item : Item) : List BlockKind :=
  match item.action? with
  | some taken => taken.kindsAfter kinds
  | none => kinds

/-- The kinds of the open blocks after some items, the innermost first. -/
def openKinds (items : List Item) : List BlockKind :=
  items.foldl kindsAfter []

/-- Where an item stands does not change its action. -/
theorem action?_of_unplaced {item item' : Item} (h : item'.unplaced = item.unplaced) : item'.action? = item.action? := by
  match item, item', h with
  | .text _, .text _, rfl | .comment _, .comment _, rfl | .action offset body, .action offset' _, rfl => rfl

theorem isEnding_iff {item : Item} : item.isEnding = true ↔ item.action? = some .ending := by
  rw [isEnding]
  constructor
  · intro h
    split at h
    · assumption
    · cases h
  · intro h
    rw [h]

variable {depth : Nat} {item : Item} {items : List Item}

theorem doubleEnd_of_opening {kind : BlockKind} {pipeline : Pipeline} (h : item.action? = some (.opening kind pipeline)) :
    doubleEnd depth (item :: items) = item :: doubleEnd (depth + 1) items := by
  rw [doubleEnd, isEnding, depthAfter, h]
  rfl

theorem doubleEnd_of_otherwise {chained : Option (BlockKind × Pipeline)} (h : item.action? = some (.otherwise chained)) :
    doubleEnd depth (item :: items) = item :: doubleEnd depth items := by
  rw [doubleEnd, isEnding, depthAfter, h]
  rfl

/-- The end of a block that the items open is written once. -/
theorem doubleEnd_of_ending_inside (h : item.action? = some .ending) :
    doubleEnd (depth + 1) (item :: items) = item :: doubleEnd depth items := by
  rw [doubleEnd, isEnding, depthAfter, h]
  rfl

theorem doubleEnd_of_ending (h : item.action? = some .ending) : doubleEnd 0 (item :: items) = item :: item :: items := by
  rw [doubleEnd, isEnding, h]
  rfl

end Item

/-! ## Items in turn -/

namespace Assembly

/-- Reads an item and takes it. -/
def take (a : Assembly) (item : Item) : Except Error Assembly := do
  a.add (← Piece.ofItem item)

/-- An item with an action is taken as this action. -/
theorem take_of_action? {item : Item} {action : Action} (h : item.action? = some action) :
    ∃ offset, ∀ a : Assembly, a.take item = a.addAction offset action := by
  cases item with
  | action offset body =>
    rw [Item.action?] at h
    cases hbody : Action.ofBody body with
    | error e => rw [hbody] at h; cases h
    | ok read =>
      rw [hbody] at h
      cases h
      refine ⟨offset, fun a => ?_⟩
      rw [take, Piece.ofItem, hbody]
      rfl
  | _ => cases h

namespace Matched

variable {depth : Option Nat} {a b : Assembly}

/-- An item that is taken in both assemblies, wherever it stands, keeps them matched. -/
theorem take (h : a.Matched depth b) {item item' : Item} (hsame : item'.unplaced = item.unplaced)
    (hend : item.isEnding = true → depth ≠ some 0) :
    Alike (fun _ _ => True) (Matched (depth.map item.depthAfter)) (a.take item) (b.take item') := by
  cases haction : item.action? with
  | some action =>
    obtain ⟨offset, htake⟩ := take_of_action? haction
    obtain ⟨offset', htake'⟩ := take_of_action? ((Item.action?_of_unplaced hsame).trans haction)
    have hdepth : item.depthAfter = action.depthAfter := by
      funext n
      rw [Item.depthAfter, haction]
    rw [hdepth, htake, htake']
    refine h.addAction offset offset' action fun hending => hend (Item.isEnding_iff.mpr ?_)
    rw [haction, hending]
  | none =>
    have hdepth : depth.map item.depthAfter = depth := by
      cases depth with
      | none => rfl
      | some n => rw [Option.map_some, Item.depthAfter, haction]
    rw [hdepth]
    match item, item', hsame with
    | .text s, .text _, rfl | .comment s, .comment _, rfl => exact Alike.ok (h.push _)
    | .action offset body, .action offset' _, rfl =>
      cases hbody : Action.ofBody body with
      | error e =>
        rw [Assembly.take, Assembly.take, Piece.ofItem, Piece.ofItem, hbody]
        exact Alike.error trivial
      | ok action =>
        rw [Item.action?, hbody] at haction
        cases haction

/-- The same items, wherever they stand, keep assemblies matched that differ in offsets only. -/
theorem takeAll (h : a.Matched none b) {items items' : List Item}
    (hsame : items'.map Item.unplaced = items.map Item.unplaced) :
    Alike (fun _ _ => True) (Matched none) (items.foldlM Assembly.take a) (items'.foldlM Assembly.take b) := by
  induction items generalizing a b items' with
  | nil =>
    rw [List.map_nil, List.map_eq_nil_iff] at hsame
    subst hsame
    exact Alike.ok h
  | cons item items ih =>
    obtain ⟨item', others', rfl, hitem, hothers⟩ := List.map_eq_cons_iff.mp hsame
    rw [List.foldlM_cons, List.foldlM_cons]
    exact (h.take hitem nofun).bind fun c d hcd => ih hcd hothers

/-- The same items, but with the end of the block that is apart written twice, lead to assemblies that match. -/
theorem takeAll_doubleEnd {depth : Nat} (h : a.Matched (some depth) b) {items items' : List Item}
    (hsame : items'.map Item.unplaced = (Item.doubleEnd depth items).map Item.unplaced) :
    Alike (fun _ _ => True) (fun c d => ∃ depth, c.Matched depth d) (items.foldlM Assembly.take a)
      (items'.foldlM Assembly.take b) := by
  induction items generalizing a b depth items' with
  | nil =>
    rw [Item.doubleEnd, List.map_nil, List.map_eq_nil_iff] at hsame
    subst hsame
    exact Alike.ok ⟨_, h⟩
  | cons item items ih =>
    rw [Item.doubleEnd] at hsame
    split at hsame
    · rename_i hends
      obtain ⟨hending, hdepth⟩ := Bool.and_eq_true_iff.mp hends
      obtain rfl : depth = 0 := beq_iff_eq.mp hdepth
      obtain ⟨first, others, rfl, hfirst, hothers⟩ := List.map_eq_cons_iff.mp hsame
      obtain ⟨second, others, rfl, hsecond, hothers⟩ := List.map_eq_cons_iff.mp hothers
      have haction := Item.isEnding_iff.mp hending
      obtain ⟨offset, htake⟩ := take_of_action? haction
      obtain ⟨offset', htake'⟩ := take_of_action? ((Item.action?_of_unplaced hfirst).trans haction)
      obtain ⟨offset'', htake''⟩ := take_of_action? ((Item.action?_of_unplaced hsecond).trans haction)
      have hboth : (first :: second :: others).foldlM Assembly.take b =
          (b.endBlock offset' >>= fun c => c.endBlock offset'') >>= fun c => others.foldlM Assembly.take c := by
        simp only [List.foldlM_cons, htake', htake'', bind_assoc]
        rfl
      rw [hboth, List.foldlM_cons, htake]
      refine (h.endTwice offset offset' offset'').bind fun c d hcd => ?_
      exact (hcd.takeAll hothers).mono fun _ _ h => ⟨none, h⟩
    · rename_i hends
      obtain ⟨item', others', rfl, hitem, hothers⟩ := List.map_eq_cons_iff.mp hsame
      rw [List.foldlM_cons, List.foldlM_cons]
      refine (h.take hitem fun hending hdepth => hends ?_).bind fun c d hcd => ih hcd hothers
      cases hdepth
      rw [hending]
      rfl

/-- Assemblies that match have one tree, or none because a block is open. -/
theorem finish (h : a.Matched depth b) : Alike (fun _ _ => True) Eq a.finish b.finish := by
  have hblocks := h.blocks
  rw [Assembly.finish, Assembly.finish, h.nodes]
  generalize a.blocks = blocks, b.blocks = blocks' at hblocks
  cases hblocks with
  | nil => exact Alike.ok rfl
  | _ => exact Alike.error trivial

/-- An `else` that begins a block on the left, and the two actions on the right, lead to assemblies with that block apart. -/
theorem beginApart (h : a.Matched none b) {block : OpenBlock} {outer : List OpenBlock} (hblock : a.blocks = block :: outer)
    (offset offset' offset'' : Nat) (pipeline : Pipeline) :
    Alike (fun _ _ => True) (Matched (some 0)) (a.beginElse offset (some (block.kind, pipeline)))
      (b.beginElse offset' none >>= fun c => c.openBlock offset'' block.kind pipeline false) := by
  have hblocks := h.blocks
  rw [hblock] at hblocks
  cases hblock' : b.blocks with
  | nil => rw [hblock'] at hblocks; cases hblocks
  | cons block' outer' =>
    rw [hblock'] at hblocks
    obtain ⟨-, hbody⟩ := hblocks.head
    cases hfilled : block.body with
    | some body =>
      rw [Assembly.beginElse, Assembly.beginElse, hblock, hblock']
      simp only [hbody, hfilled, Option.isSome_some, if_true]
      exact Alike.error trivial
    | none =>
      rw [beginElse_some hblock hfilled, beginElse_none hblock' (hbody.trans hfilled), ok_bind, Assembly.openBlock,
        Assembly.openBlock, ← h.nodes, ← h.scope]
      refine (Scope.afterPipeline_alike offset offset'' (.block block.kind) a.scope pipeline).bind fun scope _ hscope => ?_
      refine Alike.ok ⟨rfl, hscope, ?_⟩
      exact .apart ⟨block.kind, pipeline, offset, [], none, a.scope, true⟩ offset'' rfl
        (hblocks.withBody (some a.nodes))

end Matched

end Assembly

/-! ## The innermost block -/

/-- The kinds of the open blocks with ends of their own. The others are of the kind of the block around them. -/
inductive OpenBlock.OfKinds : List OpenBlock → List BlockKind → Prop where
  | nil : OpenBlock.OfKinds [] []
  | ending (block : OpenBlock) {blocks : List OpenBlock} {kinds : List BlockKind} :
      block.chained = false → OpenBlock.OfKinds blocks kinds → OpenBlock.OfKinds (block :: blocks) (block.kind :: kinds)
  | sharing (block : OpenBlock) {around : OpenBlock} {blocks : List OpenBlock} {kinds : List BlockKind} :
      block.chained = true → OpenBlock.OfKinds (around :: blocks) (block.kind :: kinds) →
      OpenBlock.OfKinds (block :: around :: blocks) (block.kind :: kinds)

namespace OpenBlock.OfKinds

variable {block : OpenBlock} {outer : List OpenBlock} {kinds : List BlockKind}

theorem withBody (h : OfKinds (block :: outer) kinds) (body : Option (List Node)) :
    OfKinds ({ block with body } :: outer) kinds := by
  cases h with
  | ending _ hchained h => exact .ending { block with body } hchained h
  | sharing _ hchained h => exact .sharing { block with body } hchained h

/-- The first of the kinds is that of the innermost block. -/
theorem exists_eq_cons (h : OfKinds (block :: outer) kinds) : ∃ rest, kinds = block.kind :: rest := by
  cases h with
  | ending | sharing => exact ⟨_, rfl⟩

theorem exists_of_head? {blocks : List OpenBlock} (h : OfKinds blocks kinds) {kind : BlockKind}
    (hkind : kinds.head? = some kind) : ∃ block outer, blocks = block :: outer ∧ block.kind = kind := by
  cases h with
  | nil => cases hkind
  | ending | sharing => exact ⟨_, _, rfl, Option.some.inj hkind⟩

/-- An end ends one block with an end of its own. -/
theorem close (h : OfKinds (block :: outer) kinds) (nodes : List Node) :
    OfKinds (Assembly.close block nodes outer).blocks kinds.tail := by
  induction outer generalizing block nodes with
  | nil =>
    cases h with
    | ending _ hchained h => exact h
  | cons around others ih =>
    cases h with
    | ending _ hchained h =>
      rw [Assembly.close_of_not_chained block hchained]
      exact h
    | sharing _ hchained h =>
      rw [Assembly.close_of_chained block hchained]
      exact ih h _

/-- Every action keeps what is known of the kinds. -/
theorem addAction {a b : Assembly} {offset : Nat} {action : Action} (h : OfKinds a.blocks kinds)
    (hadd : a.addAction offset action = .ok b) : OfKinds b.blocks (action.kindsAfter kinds) := by
  have hplain : ∀ {own}, Piece.ownNodes (.action offset action) = some own → b.blocks = a.blocks :=
    fun hown => ((Assembly.proceeds_add hown a).of_eq_ok hadd).2
  match action with
  | .opening kind pipeline =>
    obtain ⟨scope, -, hb⟩ := bind_eq_ok.mp hadd
    cases hb
    exact .ending ⟨kind, pipeline, offset, a.nodes, none, a.scope, false⟩ rfl h
  | .otherwise chained =>
    obtain ⟨block, outer, hblocks, -, hb⟩ := Assembly.beginElse_eq_ok hadd
    rw [hblocks] at h
    rcases hb with ⟨-, rfl⟩ | ⟨pipeline, -, hb⟩
    · exact h.withBody _
    · obtain ⟨scope, -, hb⟩ := bind_eq_ok.mp hb
      cases hb
      obtain ⟨rest, rfl⟩ := h.exists_eq_cons
      exact .sharing ⟨block.kind, pipeline, offset, [], none, a.scope, true⟩ rfl (h.withBody _)
  | .ending =>
    rw [Assembly.addAction, Assembly.endBlock] at hadd
    split at hadd
    · cases hadd
    · rename_i block outer hblocks
      cases hadd
      rw [hblocks] at h
      exact h.close a.nodes
  | .output _ | .breakLoop | .continueLoop | .template _ _ | .definition _ =>
    rw [hplain rfl]
    exact h

theorem take {a b : Assembly} {item : Item} (h : OfKinds a.blocks kinds) (htake : a.take item = .ok b) :
    OfKinds b.blocks (item.kindsAfter kinds) := by
  cases haction : item.action? with
  | some action =>
    obtain ⟨offset, heq⟩ := Assembly.take_of_action? haction
    rw [heq] at htake
    rw [Item.kindsAfter, haction]
    exact h.addAction htake
  | none =>
    rw [Item.kindsAfter, haction]
    cases item with
    | text s | comment s => cases htake; exact h
    | action offset body =>
      rw [Item.action?] at haction
      obtain ⟨piece, hpiece, -⟩ := bind_eq_ok.mp htake
      rw [Piece.ofItem] at hpiece
      cases hbody : Action.ofBody body with
      | ok read => rw [hbody] at haction; cases haction
      | error e => rw [hbody] at hpiece; cases hpiece

/-- The open blocks after some items are those that the items open. -/
theorem takeAll {items : List Item} {a : Assembly} (h : items.foldlM Assembly.take Assembly.empty = .ok a) :
    OfKinds a.blocks (Item.openKinds items) := by
  refine foldlM_extends (P := fun done a => OfKinds a.blocks (Item.openKinds done)) ?_ .nil h
  intro done b item b' _ hb htake
  rw [Item.openKinds, List.foldl_append]
  exact hb.take htake

end OpenBlock.OfKinds

/-! ## The main result -/

/-- The two spellings of an `else` that begins a block come to one tree, or to none. -/
theorem Node.ofItems_chained {front after : List Item} {chained otherwise opening : Item} {kind : BlockKind}
    {pipeline : Pipeline} (hchained : chained.action? = some (.otherwise (some (kind, pipeline))))
    (hotherwise : otherwise.action? = some (.otherwise none)) (hopening : opening.action? = some (.opening kind pipeline))
    (hinside : (Item.openKinds front).head? = some kind) {items : List Item}
    (hsame : items.map Item.unplaced =
      (front ++ otherwise :: opening :: Item.doubleEnd 0 after).map Item.unplaced) :
    Alike (fun _ _ => True) Eq (Node.ofItems (front ++ chained :: after)) (Node.ofItems items) := by
  have hempty : Assembly.empty.Matched none Assembly.empty := ⟨rfl, rfl, .nil⟩
  rw [List.map_append] at hsame
  obtain ⟨front', rest, rfl, hfront, hrest⟩ := List.map_eq_append_iff.mp hsame
  obtain ⟨otherwise', rest, rfl, hotherwise', hrest⟩ := List.map_eq_cons_iff.mp hrest
  obtain ⟨opening', after', rfl, hopening', hafter⟩ := List.map_eq_cons_iff.mp hrest
  obtain ⟨offset, htake⟩ := Assembly.take_of_action? hchained
  obtain ⟨offset', htake'⟩ := Assembly.take_of_action? ((Item.action?_of_unplaced hotherwise').trans hotherwise)
  obtain ⟨offset'', htake''⟩ := Assembly.take_of_action? ((Item.action?_of_unplaced hopening').trans hopening)
  have hleft : Node.ofItems (front ++ chained :: after) = (do
      let a ← front.foldlM Assembly.take Assembly.empty
      let a ← a.beginElse offset (some (kind, pipeline))
      let a ← after.foldlM Assembly.take a
      a.finish) := by
    show (front ++ chained :: after).foldlM Assembly.take Assembly.empty >>= Assembly.finish = _
    simp only [List.foldlM_append, List.foldlM_cons, htake, bind_assoc]
    rfl
  have hright : Node.ofItems (front' ++ otherwise' :: opening' :: after') = (do
      let b ← front'.foldlM Assembly.take Assembly.empty
      let b ← b.beginElse offset' none >>= fun b => b.openBlock offset'' kind pipeline false
      let b ← after'.foldlM Assembly.take b
      b.finish) := by
    show (front' ++ otherwise' :: opening' :: after').foldlM Assembly.take Assembly.empty >>= Assembly.finish = _
    simp only [List.foldlM_append, List.foldlM_cons, htake', htake'', bind_assoc]
    rfl
  rw [hleft, hright]
  refine ((hempty.takeAll hfront).with_left fun _ => OpenBlock.OfKinds.takeAll).bind fun a b ⟨hkinds, hab⟩ => ?_
  obtain ⟨block, outer, hblocks, rfl⟩ := hkinds.exists_of_head? hinside
  refine (hab.beginApart hblocks offset offset' offset'' pipeline).bind fun c d hcd => ?_
  exact (hcd.takeAll_doubleEnd hafter).bind fun _ _ ⟨_, h⟩ => h.finish

/-- An `else` that begins a block may be written out. Take some items, among them an `else` that begins a block of the kind of
the innermost block that is open there. Write the `else` and the beginning of the block as two items instead, and write
twice the end that closes the block, if there is one. The items, wherever they stand, have a tree exactly if the first have
one, and it is the same tree. So sources with these items build the same template, or none. -/
theorem Node.chained_else_written_out {front after : List Item} {chained otherwise opening : Item} {kind : BlockKind}
    {pipeline : Pipeline} (hchained : chained.action? = some (.otherwise (some (kind, pipeline))))
    (hotherwise : otherwise.action? = some (.otherwise none)) (hopening : opening.action? = some (.opening kind pipeline))
    (hinside : (Item.openKinds front).head? = some kind) {items : List Item}
    (hsame : items.map Item.unplaced =
      (front ++ otherwise :: opening :: Item.doubleEnd 0 after).map Item.unplaced) :
    (∀ nodes, Node.ofItems (front ++ chained :: after) = .ok nodes ↔ Node.ofItems items = .ok nodes) ∧
    ∀ source source' : String, Item.ofSource source.toList = .ok (front ++ chained :: after) →
      Item.ofSource source'.toList = .ok items → ∀ (options : Options) (t : Template),
        Template.build source options = .ok t ↔ Template.build source' options = .ok t := by
  have halike := Node.ofItems_chained hchained hotherwise hopening hinside hsame
  refine ⟨halike.eq_ok_iff, fun source source' hsource hsource' options t => ?_⟩
  rw [Template.build, Template.build, Node.parse, Node.parse, hsource, hsource', ok_bind, ok_bind]
  exact Alike.eq_ok_iff (halike.bind fun nodes _ h => h ▸ Alike.refl (fun _ => trivial) (fun _ => rfl) _) t

/-- The second of three blocks of a chain is written out; it declares a variable, and there is another block inside it. -/
theorem Node.chained_else_written_out_second :
    Template.build "{{if .A}}{{else if $x := .B}}{{with $x}}{{end}}{{else if .C}}{{end}}" .default =
        .ok ⟨.dynamic [.block .cond ⟨[], false, [[.field ["A"]]]⟩ []
          [.block .cond ⟨["$x"], false, [[.field ["B"]]]⟩ [.block .focus ⟨[], false, [[.variable "$x" []]]⟩ [] []]
            [.block .cond ⟨[], false, [[.field ["C"]]]⟩ [] []]]], .default⟩ ∧
      Template.build "{{if .A}}{{else}}{{if $x := .B}}{{with $x}}{{end}}{{else if .C}}{{end}}{{end}}" .default =
        .ok ⟨.dynamic [.block .cond ⟨[], false, [[.field ["A"]]]⟩ []
          [.block .cond ⟨["$x"], false, [[.field ["B"]]]⟩ [.block .focus ⟨[], false, [[.variable "$x" []]]⟩ [] []]
            [.block .cond ⟨[], false, [[.field ["C"]]]⟩ [] []]]], .default⟩ := by
  have hsource : Item.ofSource "{{if .A}}{{else if $x := .B}}{{with $x}}{{end}}{{else if .C}}{{end}}".toList =
      .ok ([.action 2 "if .A".toList] ++ .action 11 "else if $x := .B".toList :: [.action 31 "with $x".toList,
        .action 42 "end".toList, .action 49 "else if .C".toList, .action 63 "end".toList]) := by
    decide +kernel
  have hsource' : Item.ofSource "{{if .A}}{{else}}{{if $x := .B}}{{with $x}}{{end}}{{else if .C}}{{end}}{{end}}".toList =
      .ok [.action 2 "if .A".toList, .action 11 "else".toList, .action 19 "if $x := .B".toList,
        .action 34 "with $x".toList, .action 45 "end".toList, .action 52 "else if .C".toList, .action 66 "end".toList,
        .action 73 "end".toList] := by
    decide +kernel
  have hbuild : Template.build "{{if .A}}{{else if $x := .B}}{{with $x}}{{end}}{{else if .C}}{{end}}" .default =
      .ok ⟨.dynamic [.block .cond ⟨[], false, [[.field ["A"]]]⟩ []
        [.block .cond ⟨["$x"], false, [[.field ["B"]]]⟩ [.block .focus ⟨[], false, [[.variable "$x" []]]⟩ [] []]
          [.block .cond ⟨[], false, [[.field ["C"]]]⟩ [] []]]], .default⟩ := by
    decide +kernel
  have hchained : (Item.action 11 "else if $x := .B".toList).action? =
      some (.otherwise (some (.cond, ⟨["$x"], false, [[.field ["B"]]]⟩))) := by
    decide +kernel
  have hotherwise : (Item.action 11 "else".toList).action? = some (.otherwise none) := by
    decide +kernel
  have hopening : (Item.action 19 "if $x := .B".toList).action? =
      some (.opening .cond ⟨["$x"], false, [[.field ["B"]]]⟩) := by
    decide +kernel
  have hinside : (Item.openKinds [.action 2 "if .A".toList]).head? = some .cond := by
    decide +kernel
  have hwith : (Item.action 31 "with $x".toList).action? = some (.opening .focus ⟨[], false, [[.variable "$x" []]]⟩) := by
    decide +kernel
  have hend : (Item.action 42 "end".toList).action? = some .ending := by
    decide +kernel
  have helse : (Item.action 49 "else if .C".toList).action? =
      some (.otherwise (some (.cond, ⟨[], false, [[.field ["C"]]]⟩))) := by
    decide +kernel
  have hlast : (Item.action 63 "end".toList).action? = some .ending := by
    decide +kernel
  have hsame : [Item.action 2 "if .A".toList, .action 11 "else".toList, .action 19 "if $x := .B".toList,
        .action 34 "with $x".toList, .action 45 "end".toList, .action 52 "else if .C".toList, .action 66 "end".toList,
        .action 73 "end".toList].map Item.unplaced =
      ([Item.action 2 "if .A".toList] ++ Item.action 11 "else".toList :: Item.action 19 "if $x := .B".toList ::
        Item.doubleEnd 0 [.action 31 "with $x".toList, .action 42 "end".toList, .action 49 "else if .C".toList,
          .action 63 "end".toList]).map Item.unplaced := by
    rw [Item.doubleEnd_of_opening hwith, Item.doubleEnd_of_ending_inside hend, Item.doubleEnd_of_otherwise helse,
      Item.doubleEnd_of_ending hlast]
    rfl
  have hwritten := Node.chained_else_written_out hchained hotherwise hopening hinside hsame
  exact ⟨hbuild, (hwritten.2 _ _ hsource hsource' _ _).mp hbuild⟩

end QueryTemplate
