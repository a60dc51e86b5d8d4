import QueryTemplate.Proofs.Action.Complete
import QueryTemplate.Proofs.Assembly.Derived

/-!
# Blocks are nested as the grammar says

A source has a tree only if its pieces derive it, and if its pieces derive a tree, then the source has this tree or another
fault than the nesting of its blocks (`Node.nesting_of_parse`). The first half is that the pieces taken so far always derive
what has been built of them. The second half follows the derivation: a derived list adds its nodes to the list that is being
filled (`Listed.proceeds`), and what completes a block ends it (`BlockRest.proceeds`).
-/

namespace QueryTemplate

/-! ## The pieces of a source -/

/-- The action is no `else` that begins a loop. -/
def Action.ChainsNoLoop (a : Action) : Prop :=
  ∀ p, a ≠ .otherwise (some (.loop, p))

namespace Reader

/-- An `else` may begin an `if` or a `with`. -/
theorem yields_chainsNoLoop_otherwise : otherwise.Yields Action.ChainsNoLoop := by
  have hopening : ∀ kind, kind ≠ .loop → (opening kind).Yields fun chained => chained.1 ≠ .loop := fun kind hkind =>
    yields_andThen fun _ => yields_andThen fun _ => yields_andThen fun _ => yields_succeed hkind
  have hchained : chainedOpening.Yields fun chained => chained.1 ≠ .loop := by
    refine yields_andThen fun _ => yields_firstOf fun p hp => ?_
    simp only [List.mem_cons, List.not_mem_nil, or_false] at hp
    rcases hp with rfl | rfl
    · exact hopening .cond (by decide)
    · exact hopening .focus (by decide)
  refine yields_andThen fun _ => hchained.optional.andThen fun chained hloop => yields_succeed ?_
  rintro p ⟨⟩
  exact hloop _ rfl rfl

/-- The other actions are no `else`. -/
theorem yields_chainsNoLoop : action.Yields Action.ChainsNoLoop := by
  refine yields_firstOf (List.forall_mem_map.mpr fun form _ => ?_)
  cases form with
  | otherwise => exact yields_chainsNoLoop_otherwise
  | invocation =>
    exact yields_andThen fun _ => yields_andThen fun _ => yields_andThen fun _ => yields_andThen fun _ =>
      yields_succeed fun _ h => by cases h
  | definition word => exact yields_andThen fun _ => yields_andThen fun _ => yields_succeed fun _ h => by cases h
  | opening | ending | breakLoop | continueLoop | output =>
    exact yields_andThen fun _ => yields_succeed fun _ h => by cases h

end Reader

/-- No piece of a source is an `else` that begins a loop. -/
theorem Piece.ne_otherwise_loop {item : Item} {piece : Piece} (h : ofItem item = .ok piece) (offset : Nat)
    (p : Pipeline) : piece ≠ .action offset (.otherwise (some (.loop, p))) := by
  rintro rfl
  match item, h with
  | .action offset body, h =>
    rw [ofItem] at h
    split at h
    · rename_i a hbody
      cases h
      exact Action.of_ofBody Reader.yields_chainsNoLoop hbody p rfl
    · cases h

/-- If the actions of all items can be read, then reading them in turn is taking their pieces. -/
theorem Node.ofItems_eq {items : List Item} {pieces : List Piece} (h : items.mapM Piece.ofItem = .ok pieces) :
    Node.ofItems items = pieces.foldlM Assembly.add Assembly.empty >>= Assembly.finish := by
  have hfold : ∀ a : Assembly, items.foldlM (fun a item => Piece.ofItem item >>= fun piece => a.add piece) a =
      pieces.foldlM Assembly.add a := by
    induction items generalizing pieces with
    | nil => cases h; exact fun _ => rfl
    | cons item items ih =>
      obtain ⟨piece, others, hpiece, hothers, rfl⟩ := mapM_cons_eq_ok.mp h
      intro a
      rw [List.foldlM_cons, List.foldlM_cons, hpiece, ok_bind]
      exact congrArg _ (funext (ih hothers))
  rw [Node.ofItems, hfold]

/-! ## Derived pieces proceed -/

namespace Assembly

/-- The assembly after an open block has become a node, inside the given blocks. -/
def complete (block : OpenBlock) (node : Node) : List OpenBlock → Assembly
  | [] => ⟨block.before ++ [node], block.outside, []⟩
  | outer :: others =>
    if block.chained then close outer (block.before ++ [node]) others
    else ⟨block.before ++ [node], block.outside, outer :: others⟩

theorem close_eq_complete (block : OpenBlock) (nodes : List Node) (outer : List OpenBlock) :
    close block nodes outer = complete block (block.node nodes) outer := by
  cases outer <;> rfl

/-- A node takes the place of a block however far the block was filled. -/
theorem complete_withBody (block : OpenBlock) (body : Option (List Node)) (node : Node) (outer : List OpenBlock) :
    complete { block with body } node outer = complete block node outer := by
  cases outer <;> rfl

/-- A block with an end of its own becomes the next node of the list around it. -/
theorem complete_of_not_chained {block : OpenBlock} (h : block.chained = false) (node : Node) (outer : List OpenBlock) :
    complete block node outer = ⟨block.before ++ [node], block.outside, outer⟩ := by
  cases outer with
  | nil => rfl
  | cons around others => rw [complete, h]; rfl

end Assembly

/-- Pieces one after the other proceed if the first do, and then the others from where the first lead. -/
theorem Proceeds.foldlM_append {pieces pieces' : List Piece} {a : Assembly} {P Q : Assembly → Prop}
    (h : Proceeds (pieces.foldlM Assembly.add a) P) (h' : ∀ b, P b → Proceeds (pieces'.foldlM Assembly.add b) Q) :
    Proceeds ((pieces ++ pieces').foldlM Assembly.add a) Q := by
  rw [List.foldlM_append]
  exact h.bind h'

/-- An end completes the innermost block. -/
theorem proceeds_ending {a : Assembly} {block : OpenBlock} {outer : List OpenBlock} (h : a.blocks = block :: outer)
    (offset : Nat) :
    Proceeds ([Piece.action offset .ending].foldlM Assembly.add a)
      (· = Assembly.complete block (block.node a.nodes) outer) := by
  rw [← Assembly.close_eq_complete, List.foldlM_cons, Assembly.add, Assembly.addAction, Assembly.endBlock, h]
  exact rfl

mutual

/-- The pieces of a derived list add its nodes to the list that is being filled and leave the open blocks as they are, unless
they have another fault than the nesting of blocks. -/
theorem Listed.proceeds {pieces : List Piece} {nodes : List Node} (h : Listed pieces nodes) (a : Assembly) :
    Proceeds (pieces.foldlM Assembly.add a) fun b => b.nodes = a.nodes ++ nodes ∧ b.blocks = a.blocks := by
  match h with
  | .nil => exact ⟨(List.append_nil _).symm, rfl⟩
  | .single hown h =>
    rw [List.foldlM_cons]
    refine (Assembly.proceeds_add hown a).bind fun b ⟨hnodes, hblocks⟩ => ?_
    have hrest := h.proceeds b
    rwa [hnodes, hblocks, List.append_assoc] at hrest
  | @Listed.block offset kind pipeline _ _ node nodes hrest h =>
    rw [List.foldlM_cons]
    refine (Assembly.proceeds_openBlock a offset kind pipeline false).bind fun b ⟨hinside, hopen⟩ => ?_
    refine (hrest.proceeds hinside hopen rfl rfl rfl).foldlM_append fun c hc => ?_
    rw [Assembly.complete_of_not_chained rfl] at hc
    subst hc
    have hafter := h.proceeds ⟨a.nodes ++ [node], a.scope, a.blocks⟩
    rwa [List.append_assoc] at hafter

/-- The pieces that complete a block make it a node, and end the blocks that share its end, unless they have another fault
than the nesting of blocks. -/
theorem BlockRest.proceeds {kind : BlockKind} {pipeline : Pipeline} {rest : List Piece} {node : Node}
    (h : BlockRest kind pipeline rest node) {a : Assembly} {block : OpenBlock} {outer : List OpenBlock}
    (hnodes : a.nodes = []) (hblocks : a.blocks = block :: outer) (hbody : block.body = none) (hkind : block.kind = kind)
    (hpipeline : block.pipeline = pipeline) :
    Proceeds (rest.foldlM Assembly.add a) (· = Assembly.complete block node outer) := by
  match h with
  | @BlockRest.ended _ _ _ _ offset h =>
    refine (h.proceeds a).foldlM_append fun b ⟨hb, hopen⟩ => ?_
    rw [hnodes, List.nil_append] at hb
    have hend := proceeds_ending (hopen.trans hblocks) offset
    rwa [OpenBlock.node_of_none hbody, hb, hkind, hpipeline] at hend
  | @BlockRest.divided _ _ _ _ _ _ _ offset h h' =>
    refine (h.proceeds a).foldlM_append fun b ⟨hb, hopen⟩ => ?_
    rw [hnodes, List.nil_append] at hb
    rw [List.foldlM_cons, Assembly.add, Assembly.addAction, Assembly.beginElse_none (hopen.trans hblocks) hbody, ok_bind]
    refine (h'.proceeds _).foldlM_append fun c ⟨hc, halternative⟩ => ?_
    have hend := proceeds_ending halternative offset
    rwa [OpenBlock.node_of_some rfl, Assembly.complete_withBody, hb, hc, List.nil_append, hkind, hpipeline] at hend
  | .chained _ h hrest =>
    refine (h.proceeds a).foldlM_append fun b ⟨hb, hopen⟩ => ?_
    rw [hnodes, List.nil_append] at hb
    rw [List.foldlM_cons, Assembly.add, Assembly.addAction, ← hkind,
      Assembly.beginElse_some (hopen.trans hblocks) hbody]
    refine (Assembly.proceeds_openBlock _ _ _ _ true).bind fun c ⟨hc, hinner⟩ => ?_
    have hend := hrest.proceeds hc hinner rfl hkind rfl
    rwa [Assembly.complete, if_pos rfl, Assembly.close_eq_complete, OpenBlock.node_of_some rfl,
      Assembly.complete_withBody, hb, List.nil_append, hpipeline] at hend

end

/-! ## A source as a whole -/

/-- The pieces of a source derive the tree that is put together of them, and hold no definition. -/
theorem listed_of_finish {items : List Item} {pieces : List Piece} {nodes : List Node}
    (hpieces : items.mapM Piece.ofItem = .ok pieces)
    (h : pieces.foldlM Assembly.add Assembly.empty >>= Assembly.finish = .ok nodes) :
    Listed pieces nodes ∧ ∀ offset word, .action offset (.definition word) ∉ pieces := by
  have hloop : ∀ piece ∈ pieces, ∀ offset p, piece ≠ .action offset (.otherwise (some (.loop, p))) := by
    intro piece hpiece
    obtain ⟨item, -, hitem⟩ := mem_of_mapM_eq_ok hpieces hpiece
    exact Piece.ne_otherwise_loop hitem
  obtain ⟨a, ha, hfinish⟩ := bind_eq_ok.mp h
  have hbuilt : Built pieces a.blocks a.nodes :=
    foldlM_extends (P := fun done a => Built done a.blocks a.nodes)
      (fun done b piece b' hpiece hb hadd => hb.add (hloop piece hpiece) hadd) (.top .nil) ha
  have hdefinition : ∀ offset word, .action offset (.definition word) ∉ pieces := by
    refine foldlM_extends (P := fun done _ => ∀ offset word, .action offset (.definition word) ∉ done) ?_ (by simp) ha
    rintro done b piece b' - hdone hadd offset word hmem
    rcases List.mem_append.mp hmem with hmem | hmem
    · exact hdone offset word hmem
    · cases List.mem_singleton.mp hmem
      cases hadd
  refine ⟨?_, hdefinition⟩
  rw [Assembly.finish] at hfinish
  split at hfinish
  · rename_i hblocks
    cases hfinish
    rw [hblocks] at hbuilt
    cases hbuilt with
    | top h => exact h
  · cases hfinish

/-- If pieces derive a tree, then the tree is put together of them, or they have another fault than the nesting of blocks. -/
theorem Listed.proceeds_finish {pieces : List Piece} {nodes : List Node} (h : Listed pieces nodes) :
    Proceeds (pieces.foldlM Assembly.add Assembly.empty >>= Assembly.finish) (· = nodes) := by
  refine (h.proceeds Assembly.empty).bind fun a ⟨hnodes, hblocks⟩ => ?_
  rw [Assembly.finish, show a.blocks = [] from hblocks]
  exact hnodes

/-- Blocks are nested as the grammar says. Take a source that splits and whose actions can be read. If it has a tree, then
its pieces derive this tree and no other, and the nodes of the tree, each before what it holds, are the pieces of the source
in order, each once: the texts, comments, plain actions and the actions and `else` that begin blocks. If its pieces derive
a tree, then it has this tree, or another fault than the nesting of its blocks. -/
theorem Node.nesting_of_parse {source : String} {items : List Item} {pieces : List Piece}
    (hitems : Item.ofSource source.toList = .ok items) (hpieces : items.mapM Piece.ofItem = .ok pieces) :
    (∀ nodes, Node.parse source = .ok nodes →
      Listed pieces nodes ∧ (∀ others, Listed pieces others → others = nodes) ∧
        (Node.preorderAll nodes).map Node.mark = pieces.filterMap Piece.mark?) ∧
    ∀ nodes, Listed pieces nodes →
      Node.parse source = .ok nodes ∨ ∃ e, Node.parse source = .error e ∧ e.isNesting = false := by
  have hparse : Node.parse source = pieces.foldlM Assembly.add Assembly.empty >>= Assembly.finish := by
    rw [Node.parse, hitems, ok_bind, Node.ofItems_eq hpieces]
  rw [hparse]
  constructor
  · intro nodes hnodes
    obtain ⟨hlisted, hdefinition⟩ := listed_of_finish hpieces hnodes
    refine ⟨hlisted, fun others hothers => ?_, hlisted.map_mark_preorderAll hdefinition⟩
    exact (hothers.proceeds_finish.of_eq_ok hnodes).symm
  · intro nodes hlisted
    have hproceeds := hlisted.proceeds_finish
    cases hresult : pieces.foldlM Assembly.add Assembly.empty >>= Assembly.finish with
    | ok others =>
      rw [hproceeds.of_eq_ok hresult]
      exact Or.inl rfl
    | error e => exact Or.inr ⟨e, rfl, hproceeds.of_eq_error hresult⟩

/-- A chain of two blocks with one end, inside a loop with an alternative. -/
theorem Node.nesting_of_parse_chained :
    Item.ofSource "{{range .}}{{if .A}}a{{else if .B}}{{end}}{{else}}{{/*b*/}}{{end}}".toList =
        .ok [.action 2 "range .".toList, .action 13 "if .A".toList, .text ['a'], .action 23 "else if .B".toList,
          .action 37 "end".toList, .action 44 "else".toList, .comment ['b'], .action 61 "end".toList] ∧
      [Item.action 2 "range .".toList, .action 13 "if .A".toList, .text ['a'], .action 23 "else if .B".toList,
          .action 37 "end".toList, .action 44 "else".toList, .comment ['b'], .action 61 "end".toList].mapM Piece.ofItem =
        .ok [.action 2 (.opening .loop ⟨[], false, [[.dot]]⟩), .action 13 (.opening .cond ⟨[], false, [[.field ["A"]]]⟩),
          .text ['a'], .action 23 (.otherwise (some (.cond, ⟨[], false, [[.field ["B"]]]⟩))), .action 37 .ending,
          .action 44 (.otherwise none), .comment ['b'], .action 61 .ending] ∧
      Listed [.action 2 (.opening .loop ⟨[], false, [[.dot]]⟩), .action 13 (.opening .cond ⟨[], false, [[.field ["A"]]]⟩),
          .text ['a'], .action 23 (.otherwise (some (.cond, ⟨[], false, [[.field ["B"]]]⟩))), .action 37 .ending,
          .action 44 (.otherwise none), .comment ['b'], .action 61 .ending]
        [.block .loop ⟨[], false, [[.dot]]⟩
          [.block .cond ⟨[], false, [[.field ["A"]]]⟩ [.text "a"] [.block .cond ⟨[], false, [[.field ["B"]]]⟩ [] []]]
          [.comment "b"]] :=
  have hitems : Item.ofSource "{{range .}}{{if .A}}a{{else if .B}}{{end}}{{else}}{{/*b*/}}{{end}}".toList =
      .ok [.action 2 "range .".toList, .action 13 "if .A".toList, .text ['a'], .action 23 "else if .B".toList,
        .action 37 "end".toList, .action 44 "else".toList, .comment ['b'], .action 61 "end".toList] := by
    decide +kernel
  have hpieces : [Item.action 2 "range .".toList, .action 13 "if .A".toList, .text ['a'],
      .action 23 "else if .B".toList, .action 37 "end".toList, .action 44 "else".toList, .comment ['b'],
      .action 61 "end".toList].mapM Piece.ofItem =
      .ok [.action 2 (.opening .loop ⟨[], false, [[.dot]]⟩), .action 13 (.opening .cond ⟨[], false, [[.field ["A"]]]⟩),
        .text ['a'], .action 23 (.otherwise (some (.cond, ⟨[], false, [[.field ["B"]]]⟩))), .action 37 .ending,
        .action 44 (.otherwise none), .comment ['b'], .action 61 .ending] := by
    decide +kernel
  ⟨hitems, hpieces, ((Node.nesting_of_parse hitems hpieces).1 _ (by decide +kernel)).1⟩

end QueryTemplate
