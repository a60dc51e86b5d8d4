/-!
# Trees of paths

The paths that a template binds, as a tree of their names. Where a path ends the whole value is needed, and what lies
below it adds nothing (`PathTree.whole`). The children of a node are sorted by name, so the tree does not depend on the
order in which the paths came.
-/

namespace QueryTemplate

/-- The parts of a value that some paths need. -/
inductive PathTree where
  /-- All of it. -/
  | whole
  /-- The parts under some names, sorted by name. -/
  | branch (children : List (String × PathTree))

namespace PathTree

mutual

def decEq : (s t : PathTree) → Decidable (s = t)
  | .whole, .whole => isTrue rfl
  | .whole, .branch _ => isFalse nofun
  | .branch _, .whole => isFalse nofun
  | .branch as, .branch bs =>
    match decEqChildren as bs with
    | isTrue h => isTrue (congrArg branch h)
    | isFalse h => isFalse fun e => h (PathTree.branch.inj e)

def decEqChildren : (as bs : List (String × PathTree)) → Decidable (as = bs)
  | [], [] => isTrue rfl
  | [], _ :: _ => isFalse nofun
  | _ :: _, [] => isFalse nofun
  | (m, s) :: as, (n, t) :: bs =>
    if hn : m = n then
      match decEq s t, decEqChildren as bs with
      | isTrue ht, isTrue hs => isTrue (by rw [hn, ht, hs])
      | isFalse h, _ => isFalse fun e => h (Prod.mk.inj (List.cons.inj e).1).2
      | _, isFalse h => isFalse fun e => h (List.cons.inj e).2
    else isFalse fun e => hn (Prod.mk.inj (List.cons.inj e).1).1

end

instance : DecidableEq PathTree := decEq

/-- No path at all: nothing is needed. -/
def empty : PathTree :=
  .branch []

/-- Whether all of the value is needed. -/
def isWhole : PathTree → Bool
  | .whole => true
  | .branch _ => false

/-- The child under a name. -/
def child? (name : String) : List (String × PathTree) → Option PathTree
  | [] => none
  | (key, t) :: children => if key = name then some t else child? name children

/-- Replaces the child under a name, or adds one in its place. -/
def modify (name : String) (f : Option PathTree → PathTree) : List (String × PathTree) → List (String × PathTree)
  | [] => [(name, f none)]
  | (key, t) :: children =>
    if key = name then (key, f (some t)) :: children
    else if name < key then (name, f none) :: (key, t) :: children
    else (key, t) :: modify name f children

/-- The tree with one more path. -/
def insert : List String → PathTree → PathTree
  | _, .whole => .whole
  | [], .branch _ => .whole
  | name :: path, .branch children => .branch (modify name (fun child => insert path (child.getD empty)) children)

/-- The tree of some paths. -/
def ofPaths (paths : List (List String)) : PathTree :=
  paths.foldl (fun t path => t.insert path) empty

/-- What is needed of the part under a name; `none` if nothing of it is. -/
def entry? (name : String) : PathTree → Option PathTree
  | .whole => some .whole
  | .branch children => child? name children

/-- What is needed of the elements of a list. No path leads into a list, so below a path its elements are kept without
the parts that names lead to. -/
def elements : PathTree → PathTree
  | .whole => .whole
  | .branch _ => empty

/-- A path that is added to a tree that is needed whole adds nothing. -/
@[simp] theorem insert_whole (path : List String) : insert path .whole = .whole := by
  cases path <;> rfl

/-- The empty path makes the whole value needed. -/
@[simp] theorem insert_nil (t : PathTree) : insert [] t = .whole := by
  cases t <;> rfl

/-- A modified child is found again. -/
theorem child?_modify_self (name : String) (f : Option PathTree → PathTree) (children : List (String × PathTree))
    (sorted : children.Pairwise fun a b => a.1 < b.1) :
    child? name (modify name f children) = some (f (child? name children)) := by
  induction children with
  | nil => simp [modify, child?]
  | cons head children ih =>
    obtain ⟨key, t⟩ := head
    rw [List.pairwise_cons] at sorted
    by_cases hkey : key = name
    · simp [modify, child?, hkey]
    · by_cases hlt : name < key
      · have habsent : child? name children = none := by
          have hbelow : ∀ c ∈ children, name < c.1 := fun c hc => String.lt_trans hlt (sorted.1 c hc)
          clear ih sorted
          induction children with
          | nil => rfl
          | cons c children ih =>
            have hc : c.1 ≠ name := fun e => String.lt_irrefl name (e ▸ hbelow c List.mem_cons_self)
            rw [child?, if_neg hc]
            exact ih fun d hd => hbelow d (List.mem_cons_of_mem c hd)
        simp [modify, child?, hkey, hlt, habsent]
      · simp only [modify, child?, hkey, hlt, if_false]
        exact ih sorted.2

end PathTree

end QueryTemplate
