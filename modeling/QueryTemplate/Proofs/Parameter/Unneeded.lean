import QueryTemplate.Proofs.Parameter.Part

/-!
# What no path needs of a parameter

A field of a record or an entry of a map that is off the paths is never converted: whatever stands there, the value is
the same, and so is the error (`Parameter.convert_off_paths`). A place in a parameter is given by the layers around it,
from the outside inwards (`Layer`), and by the slot itself (`Slot`). What is needed of the parameter is handed on through
the layers (`Parameter.neededWithin?`), and only what arrives has a part in the conversion
(`Parameter.convert_fill_congr`).
-/

namespace QueryTemplate

namespace Parameter

/-- The key that waits for its value after some steps in describing a map. -/
def keyAfter (waiting : Option Value) : List (MapStep Parameter) → Option Value
  | [] => waiting
  | .key k :: steps => keyAfter k.toValue.toOption steps
  | .value _ :: steps => keyAfter none steps

/-- A place for the value of a field or of a map entry, with what stands beside it. -/
inductive Slot where
  | field (before : List (String × Parameter)) (name : String) (after : List (String × Parameter))
  | variantField (tag : String) (before : List (String × Parameter)) (name : String)
      (after : List (String × Parameter))
  | entry (before after : List (MapStep Parameter))

/-- One layer around a part of a parameter. -/
inductive Layer where
  | optional
  | wrapper
  | unbindable
  | variantOf (name : String)
  | variantItem (name : String) (before after : List Parameter)
  | item (before after : List Parameter)
  | slot (place : Slot)

/-- The parameter that a slot is part of, with some parameter in it. -/
def Slot.fill (p : Parameter) : Slot → Parameter
  | .field before name after => .record (before ++ (name, p) :: after)
  | .variantField tag before name after => .variantRecord tag (before ++ (name, p) :: after)
  | .entry before after => .map (before ++ .value p :: after)

/-- The layer around some parameter. -/
def Layer.fill (p : Parameter) : Layer → Parameter
  | .optional => .optional p
  | .wrapper => .wrapper p
  | .unbindable => .unbindable p
  | .variantOf name => .variantOf name p
  | .variantItem name before after => .variantList name (before ++ p :: after)
  | .item before after => .list (before ++ p :: after)
  | .slot place => place.fill p

/-- Layers around some parameter, the outermost first. -/
def fill (layers : List Layer) (p : Parameter) : Parameter :=
  layers.foldr (fun layer q => layer.fill q) p

/-! ## Positions -/

/-- The names that lead into a slot: of the variant and of the field, or the key of the entry; `none` if the key is no
string. -/
def Slot.names? : Slot → Option (List String)
  | .field _ name _ => some [name]
  | .variantField tag _ name _ => some [tag, name]
  | .entry before _ =>
    match keyAfter none before with
    | some (.string name) => some [name]
    | _ => none

/-- The names that lead through a layer. Places in lists have no name, and neither have keys that are no strings. -/
def Layer.names : Layer → List String
  | .optional | .wrapper | .unbindable | .item _ _ => []
  | .variantOf name | .variantItem name _ _ => [name]
  | .slot place => place.names?.getD []

/-- The names that lead through some layers. -/
def position (layers : List Layer) : List String :=
  layers.flatMap Layer.names

/-- A slot at a position is off the paths: no path leads to it, further down or up to where it is on the way. If its key
is no string, no path may lead to its map or to what the map is part of. -/
def Slot.IsOff (paths : List (List String)) (position : List String) (slot : Slot) : Prop :=
  match slot.names? with
  | some names => ∀ path ∈ paths, ¬ path <+: position ++ names ∧ ¬ position ++ names <+: path
  | none => ∀ path ∈ paths, ¬ path <+: position

/-! ## What is needed within -/

/-- What is needed of the content of a slot; `none` if it is left out. -/
def Slot.needed? (t : PathTree) : Slot → Option PathTree
  | .field _ name _ => t.entry? name
  | .variantField tag _ name _ => (t.entry? tag).bind fun below => below.entry? name
  | .entry before _ => (keyAfter none before).bind (entryFor? t)

/-- What is needed of the content of a layer. -/
def Layer.needed? (t : PathTree) : Layer → Option PathTree
  | .optional | .wrapper | .unbindable => some t
  | .variantOf name => t.entry? name
  | .variantItem _ _ _ | .item _ _ => some t.elements
  | .slot place => place.needed? t

/-- What is needed of the content of some layers. -/
def neededWithin? (t : PathTree) : List Layer → Option PathTree
  | [] => some t
  | layer :: layers => (layer.needed? t).bind fun below => neededWithin? below layers

/-- Two parameters are converted alike as far as something is needed of them. -/
def ConvertedAlike (needed : Option PathTree) (p q : Parameter) : Prop :=
  ∀ t, needed = some t → convert t p = convert t q

variable {t : PathTree} {p q : Parameter}

theorem convertItems_congr (h : convert t p = convert t q) (before after : List Parameter) :
    convertItems t (before ++ p :: after) = convertItems t (before ++ q :: after) := by
  induction before with
  | nil => simp only [List.nil_append, convertItems, h]
  | cons item before ih => simp only [List.cons_append, convertItems, ih]

theorem convertFields_congr {name : String} (h : ConvertedAlike (t.entry? name) p q)
    (before after : List (String × Parameter)) :
    convertFields t (before ++ (name, p) :: after) = convertFields t (before ++ (name, q) :: after) := by
  induction before with
  | nil =>
    simp only [List.nil_append, convertFields]
    cases hneeded : t.entry? name with
    | none => rfl
    | some below => simp only [h below hneeded]
  | cons field before ih => simp only [List.cons_append, convertFields, ih]

/-- The key that waits is the last one of the steps before. -/
theorem convertSteps_congr {waiting : Option Value} {before : List (MapStep Parameter)}
    (h : ConvertedAlike ((keyAfter waiting before).bind (entryFor? t)) p q) (after : List (MapStep Parameter)) :
    convertSteps t waiting (before ++ .value p :: after) = convertSteps t waiting (before ++ .value q :: after) := by
  induction before generalizing waiting with
  | nil =>
    simp only [List.nil_append, convertSteps]
    cases waiting with
    | none => rfl
    | some key =>
      simp only
      cases hneeded : entryFor? t key with
      | none => rfl
      | some below => simp only [h below hneeded]
  | cons step before ih =>
    cases step with
    | key k =>
      simp only [List.cons_append, convertSteps]
      rw [keyAfter, toValue] at h
      cases hkey : convert .whole k with
      | error e => rfl
      | ok key =>
        rw [hkey] at h
        exact ih h
    | value v =>
      rw [keyAfter] at h
      simp only [List.cons_append, convertSteps, ih h]

theorem convert_slot_congr {slot : Slot} (h : ConvertedAlike (slot.needed? t) p q) :
    convert t (slot.fill p) = convert t (slot.fill q) := by
  cases slot with
  | field before name after =>
    simp only [Slot.fill, convert, convertFields_congr (t := t) h]
  | variantField tag before name after =>
    simp only [Slot.fill, convert]
    cases htag : t.entry? tag with
    | none => rfl
    | some below =>
      rw [Slot.needed?, htag] at h
      simp only [convertFields_congr (t := below) h]
  | entry before after =>
    simp only [Slot.fill, convert, convertSteps_congr (t := t) h]

theorem convert_layer_congr {layer : Layer} (h : ConvertedAlike (layer.needed? t) p q) :
    convert t (layer.fill p) = convert t (layer.fill q) := by
  cases layer with
  | optional => simp only [Layer.fill, convert, h t rfl]
  | wrapper => simp only [Layer.fill, convert, h t rfl]
  | unbindable => simp only [Layer.fill, convert, h t rfl]
  | variantOf name =>
    simp only [Layer.fill, convert]
    cases hneeded : t.entry? name with
    | none => rfl
    | some below => simp only [h below hneeded]
  | variantItem name before after => simp only [Layer.fill, convert, convertItems_congr (h t.elements rfl)]
  | item before after => simp only [Layer.fill, convert, convertItems_congr (h t.elements rfl)]
  | slot place => exact convert_slot_congr h

/-- A part of a parameter matters to the conversion only as far as something is needed of it. -/
theorem convert_fill_congr {layers : List Layer} (h : ConvertedAlike (neededWithin? t layers) p q) :
    convert t (fill layers p) = convert t (fill layers q) := by
  induction layers generalizing t with
  | nil => exact h t rfl
  | cons layer layers ih =>
    refine convert_layer_congr fun below hbelow => ih ?_
    rwa [neededWithin?, hbelow] at h

/-! ## Off the paths -/

/-- Nothing is needed of what stands in a slot at a position, or at least not its map as a whole if its key is no
string. -/
def Slot.IsOffIn (t : PathTree) (position : List String) (slot : Slot) : Prop :=
  match slot.names? with
  | some names => t.at? (position ++ names) = none
  | none => ¬ t.Covers position

theorem Slot.names?_ne_nil {slot : Slot} {names : List String} (h : slot.names? = some names) : names ≠ [] := by
  rintro rfl
  cases slot with
  | field before name after => cases h
  | variantField tag before name after => cases h
  | entry before after =>
    rw [names?] at h
    split at h <;> cases h

theorem Slot.isOffIn_of_isOff {paths : List (List String)} {position : List String} {slot : Slot}
    (h : slot.IsOff paths position) : slot.IsOffIn (.ofPaths paths) position := by
  rw [IsOff] at h
  rw [IsOffIn]
  split at h
  · rename_i names hnames
    have hne : position ++ names ≠ [] := by simp [names?_ne_nil hnames]
    exact PathTree.at?_ofPaths_eq_none hne h
  · rw [PathTree.covers_ofPaths]
    rintro ⟨path, hmem, hprefix⟩
    exact h path hmem hprefix

/-- No slot is off where all is needed. -/
theorem Slot.not_isOffIn_whole (position : List String) (slot : Slot) : ¬ slot.IsOffIn .whole position := by
  intro h
  rw [IsOffIn] at h
  split at h
  · rename_i names _
    rw [show PathTree.whole.at? (position ++ names) = some .whole from PathTree.covers_whole _] at h
    cases h
  · exact h (PathTree.covers_whole _)

/-- Every slot is off where nothing is needed. -/
theorem Slot.isOffIn_empty (position : List String) (slot : Slot) : slot.IsOffIn .empty position := by
  rw [IsOffIn]
  split
  · rename_i names hnames
    exact PathTree.at?_empty (by simp [names?_ne_nil hnames])
  · exact PathTree.not_covers_empty _

/-- The elements of a list are needed whole or not at all, so slots in them are off. -/
theorem Slot.IsOffIn.elements {position : List String} {slot : Slot} (h : slot.IsOffIn t position)
    (position' : List String) : slot.IsOffIn t.elements position' := by
  cases t with
  | whole => exact absurd h (not_isOffIn_whole _ _)
  | branch children => exact isOffIn_empty _ _

/-- What is needed under the first names of a position decides on the rest. -/
theorem Slot.IsOffIn.below {names : List String} {below : PathTree} {position : List String} {slot : Slot}
    (h : slot.IsOffIn t (names ++ position)) (hbelow : t.at? names = some below) : slot.IsOffIn below position := by
  have hat : ∀ rest, t.at? (names ++ rest) = below.at? rest := by
    intro rest
    rw [PathTree.at?_append, hbelow, Option.bind_some]
  rw [IsOffIn] at h ⊢
  split at h
  · rwa [List.append_assoc, hat] at h
  · rwa [PathTree.Covers, hat] at h

/-- A key that is no string leads on only where all is needed. -/
theorem Slot.needed?_of_names?_eq_none {slot : Slot} (h : slot.names? = none) {position : List String} {other : Slot}
    (hother : other.IsOffIn t position) : slot.needed? t = none := by
  cases t with
  | whole => exact absurd hother (not_isOffIn_whole _ _)
  | branch children =>
    cases slot with
    | field before name after => cases h
    | variantField tag before name after => cases h
    | entry before after =>
      rw [names?] at h
      rw [needed?]
      cases hkey : keyAfter none before with
      | none => rfl
      | some key =>
        rw [hkey] at h
        cases key with
        | string name => cases h
        | _ => rfl

/-- What is needed in a slot is what is needed under its names. -/
theorem Slot.needed?_of_names?_eq_some {slot : Slot} {names : List String} (h : slot.names? = some names) :
    slot.needed? t = t.at? names := by
  cases slot with
  | field before name after =>
    cases h
    simp [needed?, PathTree.at?]
  | variantField tag before name after =>
    cases h
    simp [needed?, PathTree.at?]
  | entry before after =>
    rw [names?] at h
    split at h
    · rename_i name hkey
      cases h
      simp [needed?, hkey, entryFor?_string, PathTree.at?]
    · cases h

/-- A slot that is off stays off within a layer that something is needed of. -/
theorem Slot.IsOffIn.within {layer : Layer} {position : List String} {slot : Slot} {below : PathTree}
    (h : slot.IsOffIn t (layer.names ++ position)) (hbelow : layer.needed? t = some below) :
    slot.IsOffIn below position := by
  cases layer with
  | optional => cases hbelow; exact h
  | wrapper => cases hbelow; exact h
  | unbindable => cases hbelow; exact h
  | variantOf name =>
    have hname : t.at? [name] = some below := by simpa [Layer.needed?, PathTree.at?] using hbelow
    exact h.below hname
  | variantItem name before after => cases hbelow; exact h.elements position
  | item before after => cases hbelow; exact h.elements position
  | slot place =>
    rw [Layer.needed?] at hbelow
    rw [Layer.names] at h
    cases hnames : place.names? with
    | none =>
      rw [needed?_of_names?_eq_none hnames h] at hbelow
      cases hbelow
    | some names =>
      rw [hnames] at h
      rw [needed?_of_names?_eq_some hnames] at hbelow
      exact h.below hbelow

/-- Nothing is needed of what stands in a slot that is off. -/
theorem neededWithin?_of_isOffIn {layers : List Layer} {slot : Slot} (h : slot.IsOffIn t (position layers)) :
    neededWithin? t (layers ++ [.slot slot]) = none := by
  induction layers generalizing t with
  | nil =>
    have hneeded : slot.needed? t = none := by
      cases hnames : slot.names? with
      | none => exact Slot.needed?_of_names?_eq_none hnames h
      | some names =>
        rw [Slot.IsOffIn, hnames] at h
        rw [Slot.needed?_of_names?_eq_some hnames]
        exact h
    rw [List.nil_append, neededWithin?, Layer.needed?, hneeded, Option.bind_none]
  | cons layer layers ih =>
    rw [List.cons_append, neededWithin?]
    cases hbelow : layer.needed? t with
    | none => rfl
    | some below =>
      have hoff : slot.IsOffIn t (layer.names ++ position layers) := by
        rwa [position, List.flatMap_cons] at h
      exact ih (hoff.within hbelow)

/-- What is off the paths is never converted. Take any parameter and any place in it for the value of a field or of a
map entry, below whatever lists, optional values, wrappers and variants, but not in a key. If its position is neither a
beginning nor a continuation of a path, or if its key is no string and no path leads to its map or to what the map is
part of, then it does not matter what stands there: the value for the paths is the same, and so is the error if there is
one. -/
theorem convert_off_paths (paths : List (List String)) (layers : List Layer) (slot : Slot)
    (h : slot.IsOff paths (position layers)) (p q : Parameter) :
    convert (.ofPaths paths) (fill layers (slot.fill p)) = convert (.ofPaths paths) (fill layers (slot.fill q)) := by
  have hfill : ∀ r, fill layers (slot.fill r) = fill (layers ++ [.slot slot]) r := by
    intro r
    rw [fill, fill, List.foldr_append]
    rfl
  rw [hfill, hfill]
  refine convert_fill_congr fun t ht => ?_
  rw [neededWithin?_of_isOffIn (Slot.isOffIn_of_isOff h)] at ht
  cases ht

/-- A field of an optional record beside the field that a path leads to, and, in a list that a path leads beyond, an
entry under a number: in both places may stand what cannot be converted. -/
theorem convert_off_paths_refused :
    (Slot.IsOff [["owner", "name"], ["id"]] ["owner"] (.field [("name", .string "ann")] "email" []) ∧
      convert (.ofPaths [["owner", "name"], ["id"]])
          (.record [("id", .integer (.narrow (.i64 9))),
            ("owner", .optional (.record [("name", .string "ann"), ("email", .string "ann@example.com")]))]) =
        convert (.ofPaths [["owner", "name"], ["id"]])
          (.record [("id", .integer (.narrow (.i64 9))),
            ("owner", .optional (.record [("name", .string "ann"), ("email", .refused "secret")]))])) ∧
    (Slot.IsOff [["rows", "a"]] ["rows"] (.entry [.key (.integer (.narrow (.i64 1)))] []) ∧
      convert (.ofPaths [["rows", "a"]]) (.record [("rows", .list [.map [.key (.integer (.narrow (.i64 1))), .value .null]])]) =
        convert (.ofPaths [["rows", "a"]])
          (.record [("rows", .list [.map [.key (.integer (.narrow (.i64 1))), .value (.refused "secret")]])])) :=
  have hfield : Slot.IsOff [["owner", "name"], ["id"]] ["owner"] (.field [("name", .string "ann")] "email" []) := by
    simp [Slot.IsOff, Slot.names?]
  have hentry : Slot.IsOff [["rows", "a"]] ["rows"] (.entry [.key (.integer (.narrow (.i64 1)))] []) := by
    have hkey : keyAfter none [.key (.integer (.narrow (.i64 1)))] = some (.number (.int 1)) := rfl
    simp [Slot.IsOff, Slot.names?, hkey]
  ⟨⟨hfield, convert_off_paths _ [.slot (.field [("id", .integer (.narrow (.i64 9)))] "owner" []), .optional] _ hfield
      (.string "ann@example.com") (.refused "secret")⟩,
    ⟨hentry, convert_off_paths _ [.slot (.field [] "rows" []), .item [] []] _ hentry .null (.refused "secret")⟩⟩

end Parameter

end QueryTemplate
