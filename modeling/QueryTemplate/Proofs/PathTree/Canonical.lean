import QueryTemplate.Proofs.PathTree.Cover

/-!
# Trees of paths as canonical forms

A tree of paths does not tell in which order they came, or how often, or which of them added nothing: two lists of paths
have the same tree exactly when the same paths are minimal in them (`PathTree.canonical`). A tree whose children are in
order is determined by what it covers as long as every branch has children (`PathTree.Trimmed`), and insertion keeps it
so. That nothing is kept below a node that is needed whole is not owed to the type: a tree with a mark beside the
children of each node comes to the same (`PathTree.marked_ofPaths`).
-/

namespace QueryTemplate

namespace PathTree

/-- The children of a node; one that is needed whole has none. -/
def children : PathTree → List (String × PathTree)
  | .whole => []
  | .branch children => children

/-- The node that a path leads to, from child to child. -/
def node? : List String → PathTree → Option PathTree
  | [], t => some t
  | name :: path, t => (child? name t.children).bind (node? path)

/-- A path of a list that begins with no other path of the list. -/
def Minimal (paths : List (List String)) (path : List String) : Prop :=
  path ∈ paths ∧ ∀ other ∈ paths, other <+: path → other = path

/-! ## Branches that go on -/

/-- Every branch of the tree has children. -/
inductive Trimmed : PathTree → Prop where
  | whole : Trimmed .whole
  | branch {children : List (String × PathTree)} : children ≠ [] → (∀ c ∈ children, Trimmed c.2) →
      Trimmed (.branch children)

theorem Trimmed.of_mem_children {t : PathTree} (h : t.Trimmed) : ∀ c ∈ t.children, c.2.Trimmed := by
  cases h with
  | whole => simp [children]
  | branch _ hchildren => exact hchildren

theorem modify_ne_nil (name : String) (f : Option PathTree → PathTree) (children : List (String × PathTree)) :
    modify name f children ≠ [] := by
  cases children with
  | nil => simp [modify]
  | cons head children =>
    obtain ⟨key, t⟩ := head
    rw [modify]
    split
    · simp
    · split <;> simp

/-- An inserted path ends in a node that is needed whole, so it leaves no branch without children. -/
theorem trimmed_insert (path : List String) {t : PathTree} (h : ∀ c ∈ t.children, c.2.Trimmed) :
    (t.insert path).Trimmed := by
  induction path generalizing t with
  | nil =>
    rw [insert_nil]
    exact Trimmed.whole
  | cons name path ih =>
    cases t with
    | whole => exact Trimmed.whole
    | branch children =>
      refine Trimmed.branch (modify_ne_nil _ _ _) ?_
      intro c hc
      rcases mem_modify hc with hc | hc | ⟨s, hs, hc⟩
      · exact h c hc
      · subst hc
        exact ih (by simp [empty, PathTree.children])
      · subst hc
        exact ih (h _ hs).of_mem_children

theorem Trimmed.foldl_insert {t : PathTree} (h : t.Trimmed) (paths : List (List String)) :
    (paths.foldl (fun t path => t.insert path) t).Trimmed := by
  induction paths generalizing t with
  | nil => exact h
  | cons path paths ih => exact ih (trimmed_insert path h.of_mem_children)

/-- Only the tree of no paths has a branch without children. -/
theorem trimmed_ofPaths {paths : List (List String)} (h : paths ≠ []) : (ofPaths paths).Trimmed := by
  cases paths with
  | nil => exact absurd rfl h
  | cons path paths =>
    have hfirst : (empty.insert path).Trimmed := trimmed_insert path (by simp [empty, children])
    exact hfirst.foldl_insert paths

/-- A trimmed tree covers something. -/
theorem Trimmed.exists_covers {t : PathTree} (h : t.Trimmed) : ∃ q, t.Covers q := by
  induction h with
  | whole => exact ⟨[], rfl⟩
  | @branch children hne _ ih =>
    cases children with
    | nil => exact absurd rfl hne
    | cons head children =>
      obtain ⟨name, t⟩ := head
      obtain ⟨q, hq⟩ := ih (name, t) List.mem_cons_self
      exact ⟨name :: q, (covers_branch_cons _ _ _).mpr ⟨t, if_pos rfl, hq⟩⟩

/-! ## Trees that cover the same -/

/-- Children in order are determined by what stands under each name. -/
theorem eq_of_child? {as bs : List (String × PathTree)} (ha : as.Pairwise fun a b => a.1 < b.1)
    (hb : bs.Pairwise fun a b => a.1 < b.1) (h : ∀ name, child? name as = child? name bs) : as = bs := by
  induction as generalizing bs with
  | nil =>
    cases bs with
    | nil => rfl
    | cons b bs => simpa [child?] using h b.1
  | cons a as ih =>
    cases bs with
    | nil => simpa [child?] using h a.1
    | cons b bs =>
      obtain ⟨k, s⟩ := a
      obtain ⟨l, t⟩ := b
      obtain ⟨hk, has⟩ := List.pairwise_cons.mp ha
      obtain ⟨hl, hbs⟩ := List.pairwise_cons.mp hb
      -- each of the two first names stands in the other list, so neither is below the other
      have hks : child? k ((l, t) :: bs) = some s := (h k).symm.trans (if_pos rfl)
      have hlt : child? l ((k, s) :: as) = some t := (h l).trans (if_pos rfl)
      have hname : k = l := by
        rcases List.mem_cons.mp (mem_of_child? hks) with heq | hmem
        · exact congrArg Prod.fst heq
        · rcases List.mem_cons.mp (mem_of_child? hlt) with heq | hmem'
          · exact (congrArg Prod.fst heq).symm
          · exact absurd (String.lt_trans (hl _ hmem) (hk _ hmem')) (String.lt_irrefl l)
      subst hname
      have htree : s = t := by
        rw [child?, if_pos rfl] at hks
        exact (Option.some.inj hks).symm
      have hrest : ∀ name, child? name as = child? name bs := by
        intro name
        by_cases hne : k = name
        · subst hne
          have habsent : ∀ cs : List (String × PathTree), (∀ c ∈ cs, k < c.1) → child? k cs = none := by
            intro cs hcs
            cases hc : child? k cs with
            | none => rfl
            | some u => exact absurd (hcs _ (mem_of_child? hc)) (String.lt_irrefl k)
          rw [habsent as hk, habsent bs hl]
        · have hboth := h name
          rwa [child?, child?, if_neg hne, if_neg hne] at hboth
      rw [htree, ih has hbs hrest]

/-- Trees in order and without dead branches that cover the same paths are the same. -/
theorem Trimmed.eq_of_covers {s t : PathTree} (hs : s.Trimmed) (ht : t.Trimmed) (hs' : s.Ordered) (ht' : t.Ordered)
    (h : ∀ q, s.Covers q ↔ t.Covers q) : s = t := by
  induction hs generalizing t with
  | whole => exact (Option.some.inj ((h []).mp rfl)).symm
  | @branch as hne has ih =>
    cases ht with
    | whole => exact absurd ((h []).mpr rfl) (not_covers_branch_nil as)
    | @branch bs hne' hbs =>
      cases hs' with
      | branch hsorted horder =>
        cases ht' with
        | branch hsorted' horder' =>
          refine congrArg PathTree.branch (eq_of_child? hsorted hsorted' fun name => ?_)
          have hname : ∀ q, (∃ u, child? name as = some u ∧ u.Covers q) ↔
              ∃ u, child? name bs = some u ∧ u.Covers q := by
            intro q
            rw [← covers_branch_cons, ← covers_branch_cons]
            exact h (name :: q)
          cases hu : child? name as with
          | none =>
            cases hw : child? name bs with
            | none => rfl
            | some w =>
              obtain ⟨q, hq⟩ := (hbs _ (mem_of_child? hw)).exists_covers
              obtain ⟨u, hu', _⟩ := (hname q).mpr ⟨w, hw, hq⟩
              rw [hu] at hu'
              cases hu'
          | some u =>
            obtain ⟨q, hq⟩ := (has _ (mem_of_child? hu)).exists_covers
            obtain ⟨w, hw, _⟩ := (hname q).mp ⟨u, hu, hq⟩
            rw [hw]
            refine congrArg some (ih _ (mem_of_child? hu) (hbs _ (mem_of_child? hw)) (horder _ (mem_of_child? hu))
              (horder' _ (mem_of_child? hw)) fun q => ?_)
            simpa [hu, hw] using hname q

/-! ## Minimal paths -/

/-- Every path of a list begins with a minimal one. -/
theorem exists_minimal {paths : List (List String)} {path : List String} (h : path ∈ paths) :
    ∃ least, Minimal paths least ∧ least <+: path := by
  induction hn : path.length using Nat.strongRecOn generalizing path with
  | _ n ih =>
    by_cases hshorter : ∃ other ∈ paths, other <+: path ∧ other ≠ path
    · obtain ⟨other, hmem, hother, hne⟩ := hshorter
      have hlength : other.length < n := by
        rcases Nat.lt_or_ge other.length path.length with hlt | hge
        · exact hn ▸ hlt
        · exact absurd (hother.eq_of_length_le hge) hne
      obtain ⟨least, hleast, hprefix⟩ := ih _ hlength hmem rfl
      exact ⟨least, hleast, hprefix.trans hother⟩
    · refine ⟨path, ⟨h, fun other hmem hother => ?_⟩, List.prefix_rfl⟩
      by_cases heq : other = path
      · exact heq
      · exact absurd ⟨other, hmem, hother, heq⟩ hshorter

/-- The tree covers what begins with a minimal path. -/
theorem covers_iff_minimal (paths : List (List String)) (q : List String) :
    (ofPaths paths).Covers q ↔ ∃ path, Minimal paths path ∧ path <+: q := by
  rw [covers_ofPaths]
  constructor
  · rintro ⟨path, hmem, hpath⟩
    obtain ⟨least, hleast, hprefix⟩ := exists_minimal hmem
    exact ⟨least, hleast, hprefix.trans hpath⟩
  · rintro ⟨path, ⟨hmem, _⟩, hpath⟩
    exact ⟨path, hmem, hpath⟩

/-- The minimal paths are the shortest that the tree covers. -/
theorem minimal_iff_covers (paths : List (List String)) (path : List String) :
    Minimal paths path ↔ (ofPaths paths).Covers path ∧ ∀ q, (ofPaths paths).Covers q → q <+: path → q = path := by
  constructor
  · rintro ⟨hmem, hleast⟩
    refine ⟨(covers_ofPaths paths path).mpr ⟨path, hmem, List.prefix_rfl⟩, fun q hq hprefix => ?_⟩
    obtain ⟨other, hother, hbelow⟩ := (covers_ofPaths paths q).mp hq
    have heq : other = path := hleast other hother (hbelow.trans hprefix)
    exact hprefix.eq_of_length_le (heq ▸ hbelow.length_le)
  · rintro ⟨hcovers, hleast⟩
    have hcovered : ∀ other ∈ paths, other <+: path → other = path := fun other hother =>
      hleast other ((covers_ofPaths paths other).mpr ⟨other, hother, List.prefix_rfl⟩)
    obtain ⟨other, hother, hprefix⟩ := (covers_ofPaths paths path).mp hcovers
    exact ⟨hcovered other hother hprefix ▸ hother, hcovered⟩

/-- Two lists of paths have the same tree exactly when the same paths are minimal in them. -/
theorem ofPaths_eq_iff (paths others : List (List String)) :
    ofPaths paths = ofPaths others ↔ ∀ path, Minimal paths path ↔ Minimal others path := by
  constructor
  · intro h path
    rw [minimal_iff_covers, minimal_iff_covers, h]
  · intro h
    have hcovers : ∀ q, (ofPaths paths).Covers q ↔ (ofPaths others).Covers q := by
      intro q
      simp only [covers_iff_minimal, h]
    have hnil : paths = [] ↔ others = [] := by
      constructor
      · rintro rfl
        exact List.eq_nil_iff_forall_not_mem.mpr fun path hmem =>
          not_covers_empty path ((hcovers path).mpr ((covers_ofPaths others path).mpr ⟨path, hmem, List.prefix_rfl⟩))
      · rintro rfl
        exact List.eq_nil_iff_forall_not_mem.mpr fun path hmem =>
          not_covers_empty path ((hcovers path).mp ((covers_ofPaths paths path).mpr ⟨path, hmem, List.prefix_rfl⟩))
    by_cases hpaths : paths = []
    · rw [hpaths, hnil.mp hpaths]
    · exact (trimmed_ofPaths hpaths).eq_of_covers (trimmed_ofPaths fun hothers => hpaths (hnil.mpr hothers))
        (ordered_ofPaths paths) (ordered_ofPaths others) hcovers

/-! ## Nodes -/

theorem Trimmed.node? {t s : PathTree} (h : t.Trimmed) {q : List String} (hs : t.node? q = some s) : s.Trimmed := by
  induction q generalizing t with
  | nil => exact Option.some.inj hs ▸ h
  | cons name q ih =>
    obtain ⟨u, hu, hs⟩ := Option.bind_eq_some_iff.mp hs
    exact ih (h.of_mem_children _ (mem_of_child? hu)) hs

/-- A path is covered when it comes, on its way from child to child, to a node that is needed whole. -/
theorem covers_iff_node? (t : PathTree) (q : List String) :
    t.Covers q ↔ ∃ front, front <+: q ∧ t.node? front = some .whole := by
  induction q generalizing t with
  | nil =>
    simp only [List.prefix_nil]
    exact ⟨fun h => ⟨[], rfl, h⟩, fun ⟨front, hfront, h⟩ => by rwa [hfront] at h⟩
  | cons name q ih =>
    cases t with
    | whole => exact ⟨fun _ => ⟨[], List.nil_prefix, rfl⟩, fun _ => covers_whole _⟩
    | branch children =>
      rw [covers_branch_cons]
      constructor
      · rintro ⟨u, hu, hq⟩
        obtain ⟨front, hfront, hnode⟩ := (ih u).mp hq
        exact ⟨name :: front, List.cons_prefix_cons.mpr ⟨rfl, hfront⟩, Option.bind_eq_some_iff.mpr ⟨u, hu, hnode⟩⟩
      · rintro ⟨front, hfront, hnode⟩
        cases front with
        | nil => cases hnode
        | cons first front =>
          obtain ⟨rfl, hrest⟩ := List.cons_prefix_cons.mp hfront
          obtain ⟨u, hu, hnode⟩ := Option.bind_eq_some_iff.mp hnode
          exact ⟨u, hu, (ih u).mpr ⟨front, hrest, hnode⟩⟩

/-- Where the nodes of a tree end they are needed whole, unless the tree is that of no paths. -/
theorem isWhole_of_node? {paths : List (List String)} {q : List String} {t : PathTree}
    (h : (ofPaths paths).node? q = some t) (hchildren : t.children = []) :
    t.isWhole = true ∨ q = [] ∧ paths = [] := by
  by_cases hpaths : paths = []
  · subst hpaths
    cases q with
    | nil => exact Or.inr ⟨rfl, rfl⟩
    | cons name q => cases h
  · cases (trimmed_ofPaths hpaths).node? h with
    | whole => exact Or.inl rfl
    | branch hne _ => exact absurd hchildren hne

end PathTree

/-! ## Marks beside children -/

/-- A tree in which every node has a mark, whether all of it is needed, and children, whatever the mark. -/
inductive MarkedTree where
  | node (isWhole : Bool) (children : List (String × MarkedTree))

namespace MarkedTree

/-- Replaces what stands under a name in a list that is sorted by name, or adds it in its place. -/
def modifyAt {α : Type} (name : String) (f : Option α → α) : List (String × α) → List (String × α)
  | [] => [(name, f none)]
  | (key, a) :: rest =>
    if key = name then (key, f (some a)) :: rest
    else if name < key then (name, f none) :: (key, a) :: rest
    else (key, a) :: modifyAt name f rest

/-- A node without mark and without children. -/
def empty : MarkedTree :=
  .node false []

/-- The tree with one more path. A marked node ends the way of the path; where the path ends, the node is marked and its
children are dropped. -/
def insert : List String → MarkedTree → MarkedTree
  | [], _ => .node true []
  | name :: path, .node isWhole children =>
    if isWhole then .node isWhole children
    else .node isWhole (modifyAt name (fun child => insert path (child.getD empty)) children)

/-- The tree of some paths, inserted one after the other. -/
def ofPaths (paths : List (List String)) : MarkedTree :=
  paths.foldl (fun t path => t.insert path) empty

/-- What is modified under a name may be mapped before or after. -/
theorem map_modifyAt {α β : Type} {g : α → β} {f : Option α → α} {f' : Option β → β}
    (h : ∀ a, g (f a) = f' (a.map g)) (name : String) (as : List (String × α)) :
    (modifyAt name f as).map (Prod.map id g) = modifyAt name f' (as.map (Prod.map id g)) := by
  induction as with
  | nil => simp [modifyAt, h]
  | cons head as ih =>
    obtain ⟨key, a⟩ := head
    simp only [modifyAt, List.map_cons, Prod.map_apply, id_eq]
    split
    · simp [h]
    · split
      · simp [h]
      · rw [List.map_cons, ih]
        rfl

end MarkedTree

namespace PathTree

mutual

/-- The tree with a mark at every node. -/
def marked : PathTree → MarkedTree
  | .whole => .node true []
  | .branch children => .node false (markedChildren children)

/-- The children of a node, each with its marks. -/
def markedChildren : List (String × PathTree) → List (String × MarkedTree)
  | [] => []
  | (name, t) :: children => (name, marked t) :: markedChildren children

end

theorem markedChildren_eq_map (children : List (String × PathTree)) :
    markedChildren children = children.map (Prod.map id marked) := by
  induction children with
  | nil => rfl
  | cons head children ih =>
    obtain ⟨name, t⟩ := head
    rw [markedChildren, ih]
    rfl

theorem modify_eq_modifyAt (name : String) (f : Option PathTree → PathTree) (children : List (String × PathTree)) :
    modify name f children = MarkedTree.modifyAt name f children := by
  induction children with
  | nil => rfl
  | cons head children ih =>
    obtain ⟨key, t⟩ := head
    rw [modify, MarkedTree.modifyAt, ih]

/-- Insertion keeps the marks and the children apart by itself. -/
theorem marked_insert (path : List String) (t : PathTree) : (t.insert path).marked = t.marked.insert path := by
  induction path generalizing t with
  | nil =>
    rw [insert_nil, marked, MarkedTree.insert]
  | cons name path ih =>
    cases t with
    | whole => rfl
    | branch children =>
      rw [insert, marked, marked, MarkedTree.insert, if_neg Bool.false_ne_true, modify_eq_modifyAt,
        markedChildren_eq_map, markedChildren_eq_map]
      refine congrArg (MarkedTree.node false) (MarkedTree.map_modifyAt (fun child => ?_) name children)
      cases child with
      | none => exact ih empty
      | some t => exact ih t

theorem marked_ofPaths (paths : List (List String)) : (ofPaths paths).marked = MarkedTree.ofPaths paths := by
  have hfold : ∀ t : PathTree, (paths.foldl (fun t path => t.insert path) t).marked =
      paths.foldl (fun t path => t.insert path) t.marked := by
    induction paths with
    | nil => exact fun t => rfl
    | cons path paths ih =>
      intro t
      rw [List.foldl_cons, List.foldl_cons, ih, marked_insert]
  exact hfold empty

/-! ## The canonical form -/

/-- The tree of some paths is a canonical form of the set of those that are minimal: another list has the same tree
exactly when the same paths are minimal in it. No node of the tree that is needed whole has children, and every node
without children is needed whole, but for the root of the tree of no paths; insertion brings this about, so a tree that
marks its nodes is the same tree. A path comes to a node that is needed whole exactly when it begins with one of the
paths. -/
theorem canonical (paths : List (List String)) :
    (∀ others, ofPaths paths = ofPaths others ↔ ∀ path, Minimal paths path ↔ Minimal others path) ∧
    (∀ q t, (ofPaths paths).node? q = some t →
      (t.isWhole = true → t.children = []) ∧ (t.children = [] → t.isWhole = true ∨ q = [] ∧ paths = [])) ∧
    MarkedTree.ofPaths paths = (ofPaths paths).marked ∧
    (∀ q, (∃ front, front <+: q ∧ (ofPaths paths).node? front = some .whole) ↔ ∃ path ∈ paths, path <+: q) := by
  refine ⟨ofPaths_eq_iff paths, fun q t h => ⟨fun hwhole => ?_, isWhole_of_node? h⟩, (marked_ofPaths paths).symm,
    fun q => ?_⟩
  · cases t with
    | whole => rfl
    | branch children => cases hwhole
  · rw [← covers_iff_node?, covers_ofPaths]

/-- A path after an extension of it, and a third path: the order, a repetition and an extension that comes later make no
difference, and the tree ends at the path. -/
theorem canonical_of_overlapping :
    (ofPaths [["a", "b"], ["c"], ["a"]] = ofPaths [["a"], ["c"], ["a", "d"], ["c"]] ↔
      ∀ path, Minimal [["a", "b"], ["c"], ["a"]] path ↔ Minimal [["a"], ["c"], ["a", "d"], ["c"]] path) ∧
    (ofPaths [["a", "b"], ["c"], ["a"]]).node? ["a"] = some .whole ∧
    (PathTree.whole.isWhole = true → PathTree.whole.children = []) :=
  have h := canonical [["a", "b"], ["c"], ["a"]]
  have hnode : (ofPaths [["a", "b"], ["c"], ["a"]]).node? ["a"] = some .whole := by decide
  ⟨h.1 [["a"], ["c"], ["a", "d"], ["c"]], hnode, (h.2.1 ["a"] .whole hnode).1⟩

end PathTree

end QueryTemplate
