import Mathlib.Data.List.Forall2
import QueryTemplate.Proofs.Render.Sequence

/-!
# Rendering into a query that has been begun

A template may be rendered by writing its parts, text and arguments, to the end of what has been written before
(`DynamicTemplate.writeNodes`). What has been written is only ever extended, and what a run adds to it does not depend
on it (`writes_nodes`). So lists are rendered part by part and loops element by element, and a loop without a variable
for the key gives each element its own part, wherever in the list the element stands (`rendering_composes`).
-/

namespace QueryTemplate

/-- Parts of a query in sequence. -/
def Rendered.join (parts : List Rendered) : Rendered :=
  ⟨String.join (parts.map Rendered.query), parts.flatMap Rendered.arguments⟩

theorem Rendered.join_cons (part : Rendered) (parts : List Rendered) : join (part :: parts) = part ++ join parts := by
  show Rendered.mk (String.join (part.query :: _)) (part.arguments ++ _) = Rendered.mk _ _
  rw [String.join_cons]
  rfl

namespace DynamicTemplate

/-! ## Writing -/

/-- A run that writes to a query of which some has been written before. A run that fails leaves what it has written. -/
abbrev Writing (α : Type) : Type :=
  EStateM Error Rendered α

/-- Writes text. -/
def writeText (s : String) : Writing Unit :=
  modify fun written => { written with query := written.query ++ s }

/-- Writes an argument. -/
def writeArgument (v : Value) : Writing Unit :=
  modify fun written => { written with arguments := written.arguments ++ [v] }

/-- Writes an action: the text of a literal, or a placeholder and its argument. -/
def writeAction (policy : MissingValue) (env : Env) (pipeline : Pipeline) : Writing Unit := do
  let operand ← MonadExcept.ofExcept (Pipeline.outputOperand pipeline)
  match operand.literalText? with
  | some text => writeText text
  | none =>
    let v ← MonadExcept.ofExcept (env.eval operand)
    let argument ← MonadExcept.ofExcept (Value.extract policy operand.text v)
    writeText placeholder
    writeArgument argument

mutual

/-- Writes a node. -/
def writeNode (policy : MissingValue) (env : Env) : Node → Writing Unit
  | .text s => writeText s
  | .action pipeline => writeAction policy env pipeline
  | .comment _ => pure ()
  | .block .cond pipeline body otherwise => do
    let v ← MonadExcept.ofExcept (blockValue env pipeline)
    if holds v then writeNodes policy (env.bindCond pipeline.targets v) body
    else writeNodes policy env otherwise
  | .block .loop pipeline body otherwise => do
    let v ← MonadExcept.ofExcept (blockValue env pipeline)
    let pairs ← MonadExcept.ofExcept (elements v)
    if pairs.isEmpty then writeNodes policy env otherwise
    else pairs.forM fun pair => writeNodes policy (env.bindElement pipeline.targets pair.1 pair.2) body
  | .block .focus pipeline body otherwise => do
    match ← MonadExcept.ofExcept (blockValue env pipeline) with
    | some v =>
      if v.isTruthy then writeNodes policy (env.bindFocus pipeline.targets v) body
      else writeNodes policy env otherwise
    | none => writeNodes policy env otherwise
  | .breakLoop => throw (.unsupportedNode .breakLoop)
  | .continueLoop => throw (.unsupportedNode .continueLoop)
  | .template _ _ => throw (.unsupportedNode .template)

/-- Writes nodes one after the other. -/
def writeNodes (policy : MissingValue) (env : Env) : List Node → Writing Unit
  | [] => pure ()
  | node :: nodes => do
    writeNode policy env node
    writeNodes policy env nodes

end

/-! ## What a run adds -/

/-- A run adds what a rendering gives to the end of whatever has been written. Where the rendering fails, the run fails
with the same error, and has added always the same. -/
def Writes (run : Writing Unit) : Except Error Rendered → Prop
  | .ok part => ∀ written, run written = .ok () (written ++ part)
  | .error e => ∃ part, ∀ written, run written = .error e (written ++ part)

namespace Writes

/-- A run that fails at once adds nothing. -/
theorem throw (e : Error) : Writes (MonadExcept.throw e) (.error e) :=
  ⟨.empty, fun written => by rw [Rendered.append_empty]; rfl⟩

/-- A run that does nothing adds nothing. -/
theorem nothing : Writes (pure ()) (.ok .empty) :=
  fun written => by rw [Rendered.append_empty]; rfl

theorem text (s : String) : Writes (writeText s) (.ok (.ofText s)) := by
  intro written
  show EStateM.Result.ok () (Rendered.mk (written.query ++ s) written.arguments) =
    .ok () (Rendered.mk (written.query ++ s) (written.arguments ++ []))
  rw [List.append_nil]

/-- A placeholder and its argument are written one after the other. -/
theorem argument (v : Value) : Writes (do writeText placeholder; writeArgument v) (.ok (.ofArgument v)) :=
  fun _ => rfl

/-- A step that writes nothing may come before. -/
theorem ofExcept_bind {α : Type} {x : Except Error α} {run : α → Writing Unit} {f : α → Except Error Rendered}
    (h : ∀ a, Writes (run a) (f a)) : Writes (MonadExcept.ofExcept x >>= run) (x >>= f) := by
  cases x with
  | ok a => exact h a
  | error e => exact throw e

/-- Two runs one after the other add what the two renderings give. -/
theorem append {first second : Writing Unit} {x y : Except Error Rendered} (hx : Writes first x)
    (hy : Writes second y) : Writes (do first; second) (do return (← x) ++ (← y)) := by
  have hrun : ∀ written, (do first; second : Writing Unit) written =
      match first written with
      | .ok _ written' => second written'
      | .error e written' => .error e written' := by
    intro written
    show EStateM.bind first (fun _ => second) written = _
    rw [EStateM.bind]
    cases first written <;> rfl
  cases x with
  | error e =>
    obtain ⟨part, hpart⟩ := hx
    exact ⟨part, fun written => by rw [hrun, hpart]⟩
  | ok part =>
    cases y with
    | error e =>
      obtain ⟨part', hpart'⟩ := hy
      refine ⟨part ++ part', fun written => ?_⟩
      rw [hrun, hx written]
      show second (written ++ part) = _
      rw [hpart', Rendered.append_assoc]
    | ok part' =>
      intro written
      rw [hrun, hx written]
      show second (written ++ part) = _
      rw [hy, Rendered.append_assoc]

/-- Runs in sequence add what the renderings in sequence give. -/
theorem forM {α : Type} {run : α → Writing Unit} {render : α → Except Error Rendered}
    (h : ∀ a, Writes (run a) (render a)) (as : List α) : Writes (as.forM run) (concat render as) := by
  induction as with
  | nil => exact nothing
  | cons a as ih => exact (h a).append ih

/-- An action is written as it is rendered. -/
theorem action (policy : MissingValue) (env : Env) (pipeline : Pipeline) :
    Writes (writeAction policy env pipeline) (renderAction policy env pipeline) := by
  refine ofExcept_bind fun operand => ?_
  cases operand.literalText? with
  | some s => exact text s
  | none => exact ofExcept_bind fun v => ofExcept_bind fun a => argument a

end Writes

mutual

/-- A node is written as it is rendered. -/
theorem writes_node (policy : MissingValue) (env : Env) (node : Node) :
    Writes (writeNode policy env node) (renderNode policy env node) := by
  match node with
  | .text s => rw [writeNode, renderNode]; exact Writes.text s
  | .action pipeline => rw [writeNode, renderNode]; exact Writes.action policy env pipeline
  | .comment s => rw [writeNode, renderNode]; exact Writes.nothing
  | .block .cond pipeline body otherwise =>
    rw [writeNode, renderNode]
    refine Writes.ofExcept_bind fun v => ?_
    cases holds v with
    | true => exact writes_nodes policy _ body
    | false => exact writes_nodes policy env otherwise
  | .block .loop pipeline body otherwise =>
    rw [writeNode, renderNode]
    refine Writes.ofExcept_bind fun v => Writes.ofExcept_bind fun pairs => ?_
    cases pairs.isEmpty with
    | true => exact writes_nodes policy env otherwise
    | false => exact Writes.forM (fun pair => writes_nodes policy _ body) pairs
  | .block .focus pipeline body otherwise =>
    rw [writeNode, renderNode]
    refine Writes.ofExcept_bind fun v => ?_
    cases v with
    | none => exact writes_nodes policy env otherwise
    | some v =>
      show Writes (if v.isTruthy then _ else _) (if v.isTruthy then _ else _)
      cases v.isTruthy with
      | true => exact writes_nodes policy _ body
      | false => exact writes_nodes policy env otherwise
  | .breakLoop | .continueLoop | .template _ _ => rw [writeNode, renderNode]; exact Writes.throw _

/-- A list of nodes is written as it is rendered. -/
theorem writes_nodes (policy : MissingValue) (env : Env) (nodes : List Node) :
    Writes (writeNodes policy env nodes) (renderNodes policy env nodes) := by
  match nodes with
  | [] => rw [writeNodes, renderNodes]; exact Writes.nothing
  | node :: nodes =>
    rw [writeNodes, renderNodes]
    exact (writes_node policy env node).append (writes_nodes policy env nodes)

end

/-! ## Parts in sequence -/

/-- Renderings in sequence succeed exactly when each of them does, and then give their parts in sequence. -/
theorem concat_eq_ok_iff {α : Type} (render : α → Except Error Rendered) (xs : List α) (r : Rendered) :
    concat render xs = .ok r ↔
      ∃ parts, List.Forall₂ (fun x part => render x = .ok part) xs parts ∧ r = .join parts := by
  induction xs generalizing r with
  | nil =>
    constructor
    · intro h
      cases h
      exact ⟨[], List.Forall₂.nil, rfl⟩
    · rintro ⟨parts, hparts, rfl⟩
      cases hparts
      rfl
  | cons x xs ih =>
    constructor
    · intro h
      obtain ⟨first, hfirst, h⟩ := bind_eq_ok.mp h
      obtain ⟨others, hothers, h⟩ := bind_eq_ok.mp h
      cases h
      obtain ⟨parts, hparts, rfl⟩ := (ih others).mp hothers
      exact ⟨first :: parts, List.Forall₂.cons hfirst hparts, (Rendered.join_cons first parts).symm⟩
    · rintro ⟨parts, hparts, rfl⟩
      cases hparts with
      | @cons _ first _ parts hfirst hparts =>
        rw [Rendered.join_cons]
        exact bind_eq_ok.mpr ⟨first, hfirst, bind_eq_ok.mpr ⟨_, (ih _).mpr ⟨parts, hparts, rfl⟩, rfl⟩⟩

/-- What exists for each member of a list is a function of the member. -/
theorem exists_part {α : Type} {P : α → Rendered → Prop} {xs : List α} (h : ∀ x ∈ xs, ∃ part, P x part) :
    ∃ part : α → Rendered, ∀ x ∈ xs, P x (part x) := by
  have : Nonempty Rendered := ⟨.empty⟩
  choose! part hpart using h
  exact ⟨part, hpart⟩

/-- Members with their parts are rendered to the parts in sequence. -/
theorem concat_of_parts {α : Type} {render : α → Except Error Rendered} {part : α → Rendered} {xs : List α}
    (h : ∀ x ∈ xs, render x = .ok (part x)) : concat render xs = .ok (.join (xs.map part)) := by
  refine (concat_eq_ok_iff render xs _).mpr ⟨xs.map part, ?_, rfl⟩
  rw [List.forall₂_map_right_iff, List.forall₂_same]
  exact h

/-! ## Lists in two parts -/

/-- A list in two parts is rendered if both parts are, to the one after the other. -/
theorem renderNodes_append_eq_ok (policy : MissingValue) (env : Env) (xs ys : List Node) (r : Rendered) :
    renderNodes policy env (xs ++ ys) = .ok r ↔
      ∃ a b, renderNodes policy env xs = .ok a ∧ renderNodes policy env ys = .ok b ∧ r = a ++ b := by
  rw [renderNodes_append]
  constructor
  · intro h
    obtain ⟨a, ha, h⟩ := bind_eq_ok.mp h
    obtain ⟨b, hb, h⟩ := bind_eq_ok.mp h
    cases h
    exact ⟨a, b, ha, hb, rfl⟩
  · rintro ⟨a, b, ha, hb, rfl⟩
    exact bind_eq_ok.mpr ⟨a, ha, bind_eq_ok.mpr ⟨b, hb, rfl⟩⟩

/-- A list in two parts fails as its first part does, or if that does not fail, as its second part does. -/
theorem renderNodes_append_eq_error (policy : MissingValue) (env : Env) (xs ys : List Node) (e : Error) :
    renderNodes policy env (xs ++ ys) = .error e ↔
      renderNodes policy env xs = .error e ∨
        (∃ a, renderNodes policy env xs = .ok a) ∧ renderNodes policy env ys = .error e := by
  rw [renderNodes_append]
  constructor
  · intro h
    rcases bind_eq_error.mp h with h | ⟨a, ha, h⟩
    · exact Or.inl h
    · rcases bind_eq_error.mp h with h | ⟨b, hb, h⟩
      · exact Or.inr ⟨⟨a, ha⟩, h⟩
      · cases h
  · rintro (h | ⟨⟨a, ha⟩, h⟩)
    · exact bind_eq_error.mpr (Or.inl h)
    · exact bind_eq_error.mpr (Or.inr ⟨a, ha, bind_eq_error.mpr (Or.inl h)⟩)

/-! ## Loops -/

/-- Renders the body of a loop for an element with its key. -/
def renderElement (policy : MissingValue) (env : Env) (names : List String) (body : List Node) (pair : Value × Value) :
    Except Error Rendered :=
  renderNodes policy (env.bindElement names pair.1 pair.2) body

/-- A loop over a collection with elements renders its body for each of them. -/
theorem renderNode_loop {env : Env} {pipeline : Pipeline} {v : Value} {pairs : List (Value × Value)}
    (hv : blockValue env pipeline = .ok (some v)) (hpairs : v.pairs? = some pairs) (hne : pairs ≠ [])
    (policy : MissingValue) (body otherwise : List Node) :
    renderNode policy env (.block .loop pipeline body otherwise) =
      concat (renderElement policy env pipeline.targets body) pairs := by
  have helements : elements (some v) = .ok pairs := by
    rw [elements, Option.bind_some, hpairs]
  rw [renderNode, hv, ok_bind, helements, ok_bind, if_neg (by simpa using hne)]
  rfl

/-- Without a variable for the key, the key of an element does not matter. -/
theorem bindElement_of_length_le {names : List String} (h : names.length ≤ 1) (env : Env) (key key' element : Value) :
    env.bindElement names key element = env.bindElement names key' element := by
  match names with
  | [] | [_] => rfl
  | _ :: _ :: _ => exact absurd h (by simp)

/-- The elements of a list, each with its index, from a first index on. -/
def indexed (first : Nat) (items : List Value) : List (Value × Value) :=
  (items.zipIdx first).map fun x => (Value.ofNat x.2, x.1)

theorem indexed_cons (first : Nat) (item : Value) (items : List Value) :
    indexed first (item :: items) = (Value.ofNat first, item) :: indexed (first + 1) items := rfl

theorem indexed_map_snd (first : Nat) (items : List Value) : (indexed first items).map Prod.snd = items := by
  rw [indexed, List.map_map]
  exact List.zipIdx_map_fst first items

/-- What is visited of a list are its elements with their indices. -/
theorem pairs?_of_list {v : Value} {items : List Value} (h : v.peel = .list items) :
    v.pairs? = some (indexed 0 items) := by
  rw [Value.pairs?, h]
  rfl

/-- A loop over a list with elements renders its body for each of them with its index. -/
theorem renderNode_loop_of_list {env : Env} {pipeline : Pipeline} {v : Value} {items : List Value}
    (hv : blockValue env pipeline = .ok (some v)) (hitems : v.peel = .list items) (hne : items ≠ [])
    (policy : MissingValue) (body otherwise : List Node) :
    renderNode policy env (.block .loop pipeline body otherwise) =
      concat (renderElement policy env pipeline.targets body) (indexed 0 items) := by
  have hindexed : indexed 0 items ≠ [] := fun h => hne (by rw [← indexed_map_snd 0 items, h]; rfl)
  exact renderNode_loop hv (pairs?_of_list hitems) hindexed policy body otherwise

/-- A loop over a list, without a variable for the key, that gives every element a part. -/
theorem renderNode_loop_of_parts {policy : MissingValue} {env : Env} {pipeline : Pipeline} {v : Value}
    {items : List Value} {body : List Node} {part : Value → Rendered} (hv : blockValue env pipeline = .ok (some v))
    (hitems : v.peel = .list items) (hne : items ≠ [])
    (hpart : ∀ item ∈ items, ∀ key, renderElement policy env pipeline.targets body (key, item) = .ok (part item))
    (otherwise : List Node) :
    renderNode policy env (.block .loop pipeline body otherwise) = .ok (.join (items.map part)) := by
  have hsnd := indexed_map_snd 0 items
  have hmap : items.map part = (indexed 0 items).map (part ∘ Prod.snd) := by rw [← List.map_map, hsnd]
  rw [renderNode_loop_of_list hv hitems hne, hmap]
  refine concat_of_parts fun pair hpair => hpart pair.2 ?_ pair.1
  exact hsnd ▸ List.mem_map_of_mem hpair

/-- A loop over a list, without a variable for the key, gives every element a part if it is rendered. -/
theorem exists_parts_of_loop {policy : MissingValue} {env : Env} {pipeline : Pipeline} {v : Value} {items : List Value}
    {body otherwise : List Node} {r : Rendered} (hnames : pipeline.targets.length ≤ 1)
    (hv : blockValue env pipeline = .ok (some v)) (hitems : v.peel = .list items) (hne : items ≠ [])
    (h : renderNode policy env (.block .loop pipeline body otherwise) = .ok r) :
    ∃ part : Value → Rendered,
      ∀ item ∈ items, ∀ key, renderElement policy env pipeline.targets body (key, item) = .ok (part item) := by
  rw [renderNode_loop_of_list hv hitems hne] at h
  have heach := exists_ok_of_concat h
  refine exists_part
    (P := fun item part => ∀ key, renderElement policy env pipeline.targets body (key, item) = .ok part)
    fun item hitem => ?_
  rw [← indexed_map_snd 0 items] at hitem
  obtain ⟨pair, hpair, rfl⟩ := List.mem_map.mp hitem
  obtain ⟨s, hs⟩ := heach pair hpair
  refine ⟨s, fun key => ?_⟩
  rw [← hs, renderElement, renderElement, bindElement_of_length_le hnames env key pair.1]

/-- Rendering is compositional.

* A renderer that writes to the end of a query adds what the nodes are rendered to by themselves, whatever has been
  written before, and only adds to it even if it fails.
* A list in two parts is rendered exactly if both parts are, to the one after the other; otherwise it fails as the first
  part does, and as the second part does if the first does not fail.
* A loop over a collection with elements is rendered exactly if its body is for each element, to these parts in
  sequence; otherwise it fails as the body does for the first element for which it fails.
* If a loop over a list is rendered, without a variable for the key, each element has a part, and a loop over the same
  elements in any other order has the same parts in that order, be it in the same environment or in another one in which
  the body is rendered alike for each element. -/
theorem rendering_composes (policy : MissingValue) (env : Env) :
    (∀ nodes, Writes (writeNodes policy env nodes) (renderNodes policy env nodes)) ∧
    (∀ xs ys,
      (∀ r, renderNodes policy env (xs ++ ys) = .ok r ↔
        ∃ a b, renderNodes policy env xs = .ok a ∧ renderNodes policy env ys = .ok b ∧ r = a ++ b) ∧
      ∀ e, renderNodes policy env (xs ++ ys) = .error e ↔
        renderNodes policy env xs = .error e ∨
          (∃ a, renderNodes policy env xs = .ok a) ∧ renderNodes policy env ys = .error e) ∧
    (∀ pipeline v pairs body otherwise, blockValue env pipeline = .ok (some v) → v.pairs? = some pairs → pairs ≠ [] →
      (∀ r, renderNode policy env (.block .loop pipeline body otherwise) = .ok r ↔
        ∃ parts, List.Forall₂ (fun pair part => renderElement policy env pipeline.targets body pair = .ok part)
          pairs parts ∧ r = .join parts) ∧
      ∀ e, renderNode policy env (.block .loop pipeline body otherwise) = .error e ↔
        ∃ front pair rest, pairs = front ++ pair :: rest ∧
          (∀ earlier ∈ front, ∃ part, renderElement policy env pipeline.targets body earlier = .ok part) ∧
          renderElement policy env pipeline.targets body pair = .error e) ∧
    ∀ pipeline v items body otherwise r, pipeline.targets.length ≤ 1 → blockValue env pipeline = .ok (some v) →
      v.peel = .list items → items ≠ [] → renderNode policy env (.block .loop pipeline body otherwise) = .ok r →
      ∃ part : Value → Rendered,
        (∀ item ∈ items, ∀ key, renderElement policy env pipeline.targets body (key, item) = .ok (part item)) ∧
        r = .join (items.map part) ∧
        ∀ env' pipeline' v' items' otherwise', pipeline'.targets = pipeline.targets →
          blockValue env' pipeline' = .ok (some v') → v'.peel = .list items' → items'.Perm items →
          (∀ item ∈ items, ∀ key, renderElement policy env' pipeline.targets body (key, item) =
            renderElement policy env pipeline.targets body (key, item)) →
          renderNode policy env' (.block .loop pipeline' body otherwise') = .ok (.join (items'.map part)) := by
  refine ⟨writes_nodes policy env, fun xs ys => ⟨?_, ?_⟩, ?_, ?_⟩
  · exact renderNodes_append_eq_ok policy env xs ys
  · exact renderNodes_append_eq_error policy env xs ys
  · intro pipeline v pairs body otherwise hv hpairs hne
    rw [renderNode_loop hv hpairs hne]
    refine ⟨concat_eq_ok_iff _ pairs, fun e => ?_⟩
    rw [concat_eq_error_iff]
    constructor
    · rintro ⟨front, pair, rest, rfl, ⟨r, hr⟩, he⟩
      exact ⟨front, pair, rest, rfl, exists_ok_of_concat hr, he⟩
    · rintro ⟨front, pair, rest, rfl, hfront, he⟩
      obtain ⟨part, hpart⟩ := exists_part hfront
      exact ⟨front, pair, rest, rfl, ⟨_, concat_of_parts hpart⟩, he⟩
  · intro pipeline v items body otherwise r hnames hv hitems hne hr
    obtain ⟨part, hpart⟩ := exists_parts_of_loop hnames hv hitems hne hr
    refine ⟨part, hpart, ?_, ?_⟩
    · exact Except.ok.inj (hr.symm.trans (renderNode_loop_of_parts hv hitems hne hpart otherwise))
    · intro env' pipeline' v' items' otherwise' htargets hv' hitems' hperm halike
      have hne' : items' ≠ [] := fun h => hne (List.nil_perm.mp (h ▸ hperm))
      refine renderNode_loop_of_parts hv' hitems' hne' (fun item hitem key => ?_) otherwise'
      have hmem := hperm.mem_iff.mp hitem
      rw [htargets, halike item hmem key]
      exact hpart item hmem key

/-- A loop over two elements, written after a text, and the loop over the same elements the other way round. -/
theorem rendering_composes_swapped :
    writeNodes .null (.initial (.record [("Ids", .list [.string "a", .string "b"])]))
        [.block .loop ⟨[], false, [[.field ["Ids"]]]⟩ [.text "(", .action ⟨[], false, [[.dot]]⟩, .text ")"] []]
        ⟨"IN ", []⟩ =
      .ok () ⟨"IN (?)(?)", [.string "a", .string "b"]⟩ ∧
    renderNode .null (.initial (.record [("Ids", .list [.string "b", .string "a"])]))
        (.block .loop ⟨[], false, [[.field ["Ids"]]]⟩ [.text "(", .action ⟨[], false, [[.dot]]⟩, .text ")"] []) =
      .ok ⟨"(?)(?)", [.string "b", .string "a"]⟩ := by
  obtain ⟨hwrites, -, -, hloop⟩ :=
    rendering_composes .null (.initial (.record [("Ids", .list [.string "a", .string "b"])]))
  refine ⟨hwrites [.block .loop ⟨[], false, [[.field ["Ids"]]]⟩
    [.text "(", .action ⟨[], false, [[.dot]]⟩, .text ")"] []] ⟨"IN ", []⟩, ?_⟩
  obtain ⟨part, hpart, -, hpermuted⟩ := hloop ⟨[], false, [[.field ["Ids"]]]⟩ (.list [.string "a", .string "b"])
    [.string "a", .string "b"] [.text "(", .action ⟨[], false, [[.dot]]⟩, .text ")"] []
    ⟨"(?)(?)", [.string "a", .string "b"]⟩ (Nat.zero_le 1) rfl rfl (List.cons_ne_nil _ _) rfl
  have ha : (⟨"(?)", [.string "a"]⟩ : Rendered) = part (.string "a") :=
    Except.ok.inj (hpart _ List.mem_cons_self .null)
  have hb : (⟨"(?)", [.string "b"]⟩ : Rendered) = part (.string "b") :=
    Except.ok.inj (hpart _ (List.mem_cons_of_mem _ List.mem_cons_self) .null)
  have hswapped := hpermuted (.initial (.record [("Ids", .list [.string "b", .string "a"])]))
    ⟨[], false, [[.field ["Ids"]]]⟩ (.list [.string "b", .string "a"]) [.string "b", .string "a"] [] rfl rfl rfl
    (List.Perm.swap _ _ _) fun _ _ _ => rfl
  rw [hswapped, List.map_cons, List.map_cons, ← ha, ← hb]
  rfl

end DynamicTemplate

end QueryTemplate
