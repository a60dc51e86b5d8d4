import QueryTemplate.PathTree

/-!
# What a tree of paths covers

A path is covered by a tree when the whole value that it leads to is needed. The tree of some paths covers exactly the
paths that one of them is a prefix of (`PathTree.covers_ofPaths`). This rests on the order of the children: each name
has its place among them (`PathTree.Ordered`), which every inserted path keeps.
-/

namespace QueryTemplate

namespace PathTree

/-- The children of every node stand in the order of their names. -/
inductive Ordered : PathTree → Prop where
  | whole : Ordered .whole
  | branch {children : List (String × PathTree)} : (children.Pairwise fun a b => a.1 < b.1) →
      (∀ c ∈ children, Ordered c.2) → Ordered (.branch children)

/-- What is needed of the part that a path leads to; `none` if nothing of it is. -/
def at? : List String → PathTree → Option PathTree
  | [], t => some t
  | name :: path, t => (t.entry? name).bind (at? path)

/-- All of the part that a path leads to is needed. -/
def Covers (t : PathTree) (path : List String) : Prop :=
  t.at? path = some .whole

/-! ## Children -/

/-- A modified child is a child as it was, or the one that was modified. -/
theorem mem_modify {name : String} {f : Option PathTree → PathTree} {children : List (String × PathTree)}
    {c : String × PathTree} (h : c ∈ modify name f children) :
    c ∈ children ∨ c = (name, f none) ∨ ∃ t, (name, t) ∈ children ∧ c = (name, f (some t)) := by
  induction children with
  | nil =>
    right
    left
    exact List.mem_singleton.mp h
  | cons head children ih =>
    obtain ⟨key, t⟩ := head
    rw [modify] at h
    by_cases hkey : key = name
    · subst hkey
      rw [if_pos rfl] at h
      rcases List.mem_cons.mp h with h | h
      · exact Or.inr (Or.inr ⟨t, List.mem_cons_self, h⟩)
      · exact Or.inl (List.mem_cons_of_mem _ h)
    · rw [if_neg hkey] at h
      by_cases hlt : name < key
      · rw [if_pos hlt] at h
        rcases List.mem_cons.mp h with h | h
        · exact Or.inr (Or.inl h)
        · exact Or.inl h
      · rw [if_neg hlt] at h
        rcases List.mem_cons.mp h with h | h
        · exact Or.inl (h ▸ List.mem_cons_self)
        · rcases ih h with h | h | ⟨s, hs, h⟩
          · exact Or.inl (List.mem_cons_of_mem _ h)
          · exact Or.inr (Or.inl h)
          · exact Or.inr (Or.inr ⟨s, List.mem_cons_of_mem _ hs, h⟩)

/-- The names of modified children are those of the children and the one that was modified. -/
theorem name_of_mem_modify {name : String} {f : Option PathTree → PathTree} {children : List (String × PathTree)}
    {c : String × PathTree} (h : c ∈ modify name f children) : c.1 = name ∨ ∃ d ∈ children, c.1 = d.1 := by
  rcases mem_modify h with h | h | ⟨t, _, h⟩
  · exact Or.inr ⟨c, h, rfl⟩
  · exact Or.inl (congrArg Prod.fst h)
  · exact Or.inl (congrArg Prod.fst h)

/-- A modified child keeps the children in order. -/
theorem pairwise_modify {name : String} (f : Option PathTree → PathTree) {children : List (String × PathTree)}
    (sorted : children.Pairwise fun a b => a.1 < b.1) : (modify name f children).Pairwise fun a b => a.1 < b.1 := by
  induction children with
  | nil => exact List.pairwise_singleton _ _
  | cons head children ih =>
    obtain ⟨key, t⟩ := head
    obtain ⟨hhead, htail⟩ := List.pairwise_cons.mp sorted
    rw [modify]
    by_cases hkey : key = name
    · rw [if_pos hkey]
      exact List.pairwise_cons.mpr ⟨hhead, htail⟩
    · rw [if_neg hkey]
      by_cases hlt : name < key
      · rw [if_pos hlt]
        refine List.pairwise_cons.mpr ⟨?_, sorted⟩
        intro c hc
        rcases List.mem_cons.mp hc with rfl | hc
        · exact hlt
        · exact String.lt_trans hlt (hhead c hc)
      · rw [if_neg hlt]
        have hgt : key < name := by
          by_cases hgt : key < name
          · exact hgt
          · exact absurd (String.le_antisymm (String.not_lt.mp hlt) (String.not_lt.mp hgt)) hkey
        refine List.pairwise_cons.mpr ⟨?_, ih htail⟩
        intro c hc
        rcases name_of_mem_modify hc with h | ⟨d, hd, h⟩
        · exact h ▸ hgt
        · exact h ▸ hhead d hd

/-- Modifying the child under a name keeps the children under the other names. -/
theorem child?_modify_of_ne {name other : String} (h : other ≠ name) (f : Option PathTree → PathTree)
    (children : List (String × PathTree)) : child? other (modify name f children) = child? other children := by
  induction children with
  | nil => exact if_neg (Ne.symm h)
  | cons head children ih =>
    obtain ⟨key, t⟩ := head
    rw [modify]
    by_cases hkey : key = name
    · subst hkey
      rw [if_pos rfl, child?, child?, if_neg (Ne.symm h), if_neg (Ne.symm h)]
    · rw [if_neg hkey]
      by_cases hlt : name < key
      · rw [if_pos hlt, child?, if_neg (Ne.symm h)]
      · rw [if_neg hlt, child?, child?, ih]

/-- A child that is found is among the children. -/
theorem mem_of_child? {name : String} {children : List (String × PathTree)} {t : PathTree}
    (h : child? name children = some t) : (name, t) ∈ children := by
  induction children with
  | nil => cases h
  | cons head children ih =>
    obtain ⟨key, s⟩ := head
    rw [child?] at h
    by_cases hkey : key = name
    · rw [if_pos hkey] at h
      cases h
      exact hkey ▸ List.mem_cons_self
    · rw [if_neg hkey] at h
      exact List.mem_cons_of_mem _ (ih h)

/-! ## Order -/

/-- The empty tree is in order. -/
theorem ordered_empty : empty.Ordered :=
  Ordered.branch List.Pairwise.nil (by simp)

/-- A path that is inserted keeps the order. -/
theorem Ordered.insert {t : PathTree} (h : t.Ordered) (path : List String) : (t.insert path).Ordered := by
  induction path generalizing t with
  | nil =>
    rw [insert_nil]
    exact Ordered.whole
  | cons name path ih =>
    cases h with
    | whole => exact Ordered.whole
    | branch sorted hchildren =>
      refine Ordered.branch (pairwise_modify _ sorted) ?_
      intro c hc
      rcases mem_modify hc with hc | hc | ⟨t, ht, hc⟩
      · exact hchildren c hc
      · subst hc
        exact ih ordered_empty
      · subst hc
        exact ih (hchildren _ ht)

/-- The tree of some paths is in order. -/
theorem ordered_ofPaths (paths : List (List String)) : (ofPaths paths).Ordered := by
  have hfold : ∀ t : PathTree, t.Ordered → (paths.foldl (fun t path => t.insert path) t).Ordered := by
    induction paths with
    | nil => exact fun t h => h
    | cons path paths ih => exact fun t h => ih _ (h.insert path)
  exact hfold empty ordered_empty

/-! ## Covered paths -/

/-- A path in two parts is followed one part after the other. -/
theorem at?_append (p q : List String) (t : PathTree) : t.at? (p ++ q) = (t.at? p).bind (at? q) := by
  induction p generalizing t with
  | nil => rfl
  | cons name p ih =>
    rw [List.cons_append, at?, at?]
    cases t.entry? name with
    | none => rfl
    | some s => exact ih s

/-- A tree that is needed whole covers every path. -/
@[simp] theorem covers_whole (path : List String) : Covers .whole path := by
  induction path with
  | nil => rfl
  | cons name path ih => exact ih

/-- The empty tree covers no path. -/
theorem not_covers_empty (path : List String) : ¬ Covers empty path := by
  intro h
  cases path <;> cases h

/-- A branch does not cover the empty path. -/
theorem not_covers_branch_nil (children : List (String × PathTree)) : ¬ Covers (.branch children) [] := by
  intro h
  cases h

/-- A path is covered by a branch when the child under its first name covers the rest. -/
theorem covers_branch_cons (children : List (String × PathTree)) (name : String) (path : List String) :
    Covers (.branch children) (name :: path) ↔ ∃ t, child? name children = some t ∧ Covers t path := by
  rw [Covers, at?, entry?]
  cases child? name children with
  | none => simp
  | some t => simp [Covers]

/-- An inserted path makes all paths covered that it is a prefix of, and no others. -/
theorem Ordered.covers_insert {t : PathTree} (h : t.Ordered) (path q : List String) :
    Covers (t.insert path) q ↔ Covers t q ∨ path <+: q := by
  induction q generalizing t path with
  | nil =>
    cases h with
    | whole => simp
    | branch sorted hchildren =>
      cases path with
      | nil => simp
      | cons name path => simp [PathTree.insert, not_covers_branch_nil]
  | cons other q ih =>
    cases h with
    | whole => simp
    | @branch children sorted hchildren =>
      cases path with
      | nil => simp
      | cons name path =>
        rw [PathTree.insert, covers_branch_cons, covers_branch_cons, List.cons_prefix_cons]
        by_cases hname : other = name
        · subst hname
          rw [child?_modify_self _ _ _ sorted]
          cases hchild : child? other children with
          | none =>
            have hcovers := ih ordered_empty path
            simp [not_covers_empty] at hcovers
            simp [hcovers]
          | some t =>
            have hcovers := ih (hchildren _ (mem_of_child? hchild)) path
            simp [hcovers]
        · rw [child?_modify_of_ne hname]
          simp [Ne.symm hname]

/-- The tree of some paths covers exactly the paths that one of them is a prefix of. -/
theorem covers_ofPaths (paths : List (List String)) (q : List String) :
    Covers (ofPaths paths) q ↔ ∃ path ∈ paths, path <+: q := by
  have hfold : ∀ t : PathTree, t.Ordered →
      (Covers (paths.foldl (fun t path => t.insert path) t) q ↔ Covers t q ∨ ∃ path ∈ paths, path <+: q) := by
    induction paths with
    | nil => intro t _; simp
    | cons path paths ih =>
      intro t h
      rw [List.foldl_cons, ih _ (h.insert path), h.covers_insert path q, or_assoc]
      simp
  rw [ofPaths, hfold empty ordered_empty]
  simp [not_covers_empty]

/-! ## Paths that nothing is needed of -/

/-- Nothing is needed below the empty tree. -/
theorem at?_empty {q : List String} (h : q ≠ []) : empty.at? q = none := by
  cases q with
  | nil => exact absurd rfl h
  | cons name q => rfl

/-- A path that is neither a beginning nor a continuation of an inserted path is needed no more than before. -/
theorem Ordered.at?_insert_eq_none {t : PathTree} (h : t.Ordered) {path q : List String} (hq : t.at? q = none)
    (hbelow : ¬ path <+: q) (habove : ¬ q <+: path) : (t.insert path).at? q = none := by
  induction q generalizing t path with
  | nil => exact absurd List.nil_prefix habove
  | cons other q ih =>
    cases h with
    | whole =>
      rw [show PathTree.whole.at? (other :: q) = some .whole from covers_whole _] at hq
      cases hq
    | @branch children sorted hchildren =>
      cases path with
      | nil => exact absurd List.nil_prefix hbelow
      | cons name path =>
        rw [PathTree.insert, at?, entry?]
        by_cases hname : other = name
        · subst hname
          rw [List.cons_prefix_cons] at hbelow habove
          have hbelow' : ¬ path <+: q := fun hprefix => hbelow ⟨rfl, hprefix⟩
          have habove' : ¬ q <+: path := fun hprefix => habove ⟨rfl, hprefix⟩
          rw [child?_modify_self _ _ _ sorted, Option.bind_some]
          rw [at?, entry?] at hq
          cases hchild : child? other children with
          | none =>
            have hne : q ≠ [] := fun hnil => habove' (hnil ▸ List.nil_prefix)
            exact ih ordered_empty (at?_empty hne) hbelow' habove'
          | some s =>
            rw [hchild] at hq
            exact ih (hchildren _ (mem_of_child? hchild)) hq hbelow' habove'
        · rw [child?_modify_of_ne hname]
          exact hq

/-- Nothing is needed of what a path leads to that is neither a beginning nor a continuation of one of the paths. -/
theorem at?_ofPaths_eq_none {paths : List (List String)} {q : List String} (hne : q ≠ [])
    (h : ∀ path ∈ paths, ¬ path <+: q ∧ ¬ q <+: path) : (ofPaths paths).at? q = none := by
  have hfold : ∀ t : PathTree, t.Ordered → t.at? q = none →
      (paths.foldl (fun t path => t.insert path) t).at? q = none := by
    induction paths with
    | nil => exact fun t _ ht => ht
    | cons path paths ih =>
      intro t hordered ht
      obtain ⟨hbelow, habove⟩ := h path List.mem_cons_self
      exact ih (fun other hother => h other (List.mem_cons_of_mem path hother)) _ (hordered.insert path)
        (hordered.at?_insert_eq_none ht hbelow habove)
  exact hfold empty ordered_empty (at?_empty hne)

end PathTree

end QueryTemplate
