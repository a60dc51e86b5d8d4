import QueryTemplate.Plain
import QueryTemplate.Proofs.Outcome
import QueryTemplate.Proofs.Parameter.Unneeded
import QueryTemplate.Proofs.Value.Frame

/-!
# What is around a part of a parameter

A part of a parameter is converted by itself. Where all that stands beside it can be converted, what is around it becomes
layers of the value (`Parameter.Hole.Becomes`), and the part becomes what is within these layers, or its error is the error
of the whole (`Parameter.toValue_fillHoles`). JSON and plain data are values by themselves, and so is what is around their
parts (`Json.ofJson_fill`, `Plain.toValue_fill`).
-/

namespace QueryTemplate

open Value (Frame)

namespace Parameter

/-- A place for a part of a parameter: within a layer, or the place of a map key. -/
inductive Hole where
  | layer (l : Layer)
  | key (before : List (MapStep Parameter)) (v : Parameter) (after : List (MapStep Parameter))

/-- The parameter with some parameter at the place. -/
def Hole.fill (p : Parameter) : Hole → Parameter
  | .layer l => l.fill p
  | .key before v after => .map (before ++ .key p :: .value v :: after)

/-- Parameters within each other around some parameter, the outermost first. -/
def fillHoles (holes : List Hole) (p : Parameter) : Parameter :=
  holes.foldr (fun hole q => hole.fill q) p

/-- What a place becomes when what stands beside it is converted: layers of a value. A wrapper leaves no trace, and a variant
is a map with one entry. -/
inductive Hole.Becomes : Hole → List Frame → Prop where
  | optional : Becomes (.layer .optional) [.optional]
  | wrapper : Becomes (.layer .wrapper) []
  | variantOf (name : String) : Becomes (.layer (.variantOf name)) [.entry [] (.string name) []]
  | variantItem {before after : List Parameter} {vs ws : List Value} (name : String)
      (hbefore : convertItems .whole before = .ok vs) (hafter : convertItems .whole after = .ok ws) :
      Becomes (.layer (.variantItem name before after)) [.entry [] (.string name) [], .item vs ws]
  | item {before after : List Parameter} {vs ws : List Value} (hbefore : convertItems .whole before = .ok vs)
      (hafter : convertItems .whole after = .ok ws) : Becomes (.layer (.item before after)) [.item vs ws]
  | field {before after : List (String × Parameter)} {vs ws : List (String × Value)} (name : String)
      (hbefore : convertFields .whole before = .ok vs) (hafter : convertFields .whole after = .ok ws) :
      Becomes (.layer (.slot (.field before name after))) [.field vs name ws]
  | variantField {before after : List (String × Parameter)} {vs ws : List (String × Value)} (tag name : String)
      (hbefore : convertFields .whole before = .ok vs) (hafter : convertFields .whole after = .ok ws) :
      Becomes (.layer (.slot (.variantField tag before name after))) [.entry [] (.string tag) [], .field vs name ws]
  | entry {before after : List (MapStep Parameter)} {vs ws : List (Value × Value)} {key : Value}
      (hbefore : convertSteps .whole none before = .ok vs) (hkey : keyAfter none before = some key)
      (hafter : convertSteps .whole none after = .ok ws) :
      Becomes (.layer (.slot (.entry before after))) [.entry vs key ws]
  | key {before after : List (MapStep Parameter)} {p : Parameter} {v : Value} {vs ws : List (Value × Value)}
      (hbefore : convertSteps .whole none before = .ok vs) (hp : p.toValue = .ok v)
      (hafter : convertSteps .whole none after = .ok ws) : Becomes (.key before p after) [.key vs v ws]

/-! ## Beside the part -/

variable {p : Parameter}

/-- Elements beside a part are converted beside its value. -/
theorem convertItems_around {before after : List Parameter} {vs ws : List Value}
    (hbefore : convertItems .whole before = .ok vs) (hafter : convertItems .whole after = .ok ws) :
    convertItems .whole (before ++ p :: after) = p.toValue.map fun v => vs ++ v :: ws := by
  induction before generalizing vs with
  | nil =>
    cases hbefore
    show p.toValue >>= (fun v => convertItems .whole after >>= fun ws => .ok (v :: ws)) = _
    rw [hafter]
    cases p.toValue <;> rfl
  | cons q before ih =>
    obtain ⟨v, hv, h⟩ := bind_eq_ok.mp hbefore
    obtain ⟨vs, hvs, h⟩ := bind_eq_ok.mp h
    cases h
    rw [List.cons_append, convertItems, hv, ok_bind, ih hvs]
    cases p.toValue <;> rfl

/-- Fields beside a part are converted beside its value. -/
theorem convertFields_around {before after : List (String × Parameter)} {vs ws : List (String × Value)} (name : String)
    (hbefore : convertFields .whole before = .ok vs) (hafter : convertFields .whole after = .ok ws) :
    convertFields .whole (before ++ (name, p) :: after) = p.toValue.map fun v => vs ++ (name, v) :: ws := by
  induction before generalizing vs with
  | nil =>
    cases hbefore
    show p.toValue >>= (fun v => convertFields .whole after >>= fun ws => .ok ((name, v) :: ws)) = _
    rw [hafter]
    cases p.toValue <;> rfl
  | cons field before ih =>
    obtain ⟨v, hv, h⟩ := bind_eq_ok.mp hbefore
    obtain ⟨vs, hvs, h⟩ := bind_eq_ok.mp h
    cases h
    show convert .whole field.2 >>= (fun v => convertFields .whole (before ++ (name, p) :: after) >>= fun ws =>
      .ok ((field.1, v) :: ws)) = _
    rw [hv, ok_bind, ih hvs]
    cases p.toValue <;> rfl

/-- Steps that can be converted are followed by others with the key that waits then. -/
theorem convertSteps_append {waiting : Option Value} {before : List (MapStep Parameter)} {vs : List (Value × Value)}
    (hbefore : convertSteps .whole waiting before = .ok vs) (after : List (MapStep Parameter)) :
    convertSteps .whole waiting (before ++ after) =
      (convertSteps .whole (keyAfter waiting before) after).map fun ws => vs ++ ws := by
  induction before generalizing waiting vs with
  | nil =>
    cases hbefore
    rw [List.nil_append, keyAfter]
    cases convertSteps .whole waiting after <;> rfl
  | cons step before ih =>
    cases step with
    | key k =>
      obtain ⟨key, hkey, h⟩ := bind_eq_ok.mp hbefore
      show convert .whole k >>= (fun key => convertSteps .whole (some key) (before ++ after)) = _
      rw [hkey, ok_bind, ih h, keyAfter, toValue, hkey]
      rfl
    | value v =>
      cases waiting with
      | none => cases hbefore
      | some key =>
        obtain ⟨w, hw, h⟩ := bind_eq_ok.mp hbefore
        obtain ⟨vs, hvs, h⟩ := bind_eq_ok.mp h
        cases h
        show convert .whole v >>= (fun w => convertSteps .whole none (before ++ after) >>= fun ws =>
          .ok ((key, w) :: ws)) = _
        rw [hw, ok_bind, ih hvs, keyAfter]
        cases convertSteps .whole (keyAfter none before) after <;> rfl

/-! ## The part -/

/-- What stands at a place is converted by itself, and put into the layers around the place. -/
theorem toValue_fill {hole : Hole} {frames : List Frame} (h : hole.Becomes frames) :
    (hole.fill p).toValue = p.toValue.map (Value.fill frames) := by
  cases h with
  | optional => show p.toValue >>= (fun v => .ok (Value.optional v)) = _; cases p.toValue <;> rfl
  | wrapper => show p.toValue = _; cases p.toValue <;> rfl
  | variantOf name =>
    show p.toValue >>= (fun v => .ok (Value.map [(.string name, v)])) = _
    cases p.toValue <;> rfl
  | variantItem name hbefore hafter =>
    show convertItems .whole (_ ++ p :: _) >>= (fun vs => .ok (Value.map [(.string name, .list vs)])) = _
    rw [convertItems_around hbefore hafter]
    cases p.toValue <;> rfl
  | item hbefore hafter =>
    show convertItems .whole (_ ++ p :: _) >>= (fun vs => .ok (Value.list vs)) = _
    rw [convertItems_around hbefore hafter]
    cases p.toValue <;> rfl
  | field name hbefore hafter =>
    show convertFields .whole (_ ++ (name, p) :: _) >>= (fun vs => .ok (Value.record vs)) = _
    rw [convertFields_around name hbefore hafter]
    cases p.toValue <;> rfl
  | variantField tag name hbefore hafter =>
    show convertFields .whole (_ ++ (name, p) :: _) >>= (fun vs => .ok (Value.map [(.string tag, .record vs)])) = _
    rw [convertFields_around name hbefore hafter]
    cases p.toValue <;> rfl
  | @entry before after vs ws key hbefore hkey hafter =>
    show convertSteps .whole none (before ++ .value p :: after) >>= (fun vs => .ok (Value.map vs)) = _
    rw [convertSteps_append hbefore, hkey]
    show ((p.toValue >>= fun v => convertSteps .whole none after >>= fun ws => .ok ((key, v) :: ws)).map _ >>= _) = _
    rw [hafter]
    cases p.toValue <;> rfl
  | @key before after q v vs ws hbefore hq hafter =>
    show convertSteps .whole none (before ++ .key p :: .value q :: after) >>= (fun vs => .ok (Value.map vs)) = _
    rw [convertSteps_append hbefore]
    show ((p.toValue >>= fun k => q.toValue >>= fun v => convertSteps .whole none after >>= fun ws =>
      .ok ((k, v) :: ws)).map _ >>= _) = _
    rw [hq, hafter]
    cases p.toValue <;> rfl

/-- What stands at a place within others is converted by itself, and put into all the layers around it. -/
theorem toValue_fillHoles {holes : List Hole} {frames : List (List Frame)} (h : List.Forall₂ Hole.Becomes holes frames) :
    (fillHoles holes p).toValue = p.toValue.map (Value.fill frames.flatten) := by
  induction h with
  | nil => show p.toValue = _; cases p.toValue <;> rfl
  | cons hfirst _ ih =>
    show (Hole.fill (fillHoles _ p) _).toValue = _
    rw [toValue_fill hfirst, ih, List.flatten_cons]
    cases p.toValue with
    | ok v => exact congrArg Except.ok (Value.fill_append _ _ v).symm
    | error e => rfl

end Parameter

/-! ## Parts of JSON and of plain data -/

namespace Json

/-- One layer around a part of a JSON value. -/
inductive Layer where
  | item (before after : List Json)
  | member (before : List (String × Json)) (name : String) (after : List (String × Json))

/-- The JSON value with some JSON value in a layer. -/
def Layer.fill (j : Json) : Layer → Json
  | .item before after => .array (before ++ j :: after)
  | .member before name after => .object (before ++ (name, j) :: after)

/-- Layers around some JSON value, the outermost first. -/
def fill (layers : List Layer) (j : Json) : Json :=
  layers.foldr (fun layer k => layer.fill k) j

/-- The layer of a value that a layer of a JSON value becomes. -/
def Layer.frame : Layer → Value.Frame
  | .item before after => .item (Value.ofJsonItems before) (Value.ofJsonItems after)
  | .member before name after => .entry (Value.ofJsonMembers before) (.string name) (Value.ofJsonMembers after)

/-- Elements of an array are taken in order. -/
theorem ofJsonItems_append (a b : List Json) :
    Value.ofJsonItems (a ++ b) = Value.ofJsonItems a ++ Value.ofJsonItems b := by
  induction a with
  | nil => rfl
  | cons j a ih => rw [List.cons_append, Value.ofJsonItems, ih, Value.ofJsonItems, List.cons_append]

/-- Members of an object are taken in order. -/
theorem ofJsonMembers_append (a b : List (String × Json)) :
    Value.ofJsonMembers (a ++ b) = Value.ofJsonMembers a ++ Value.ofJsonMembers b := by
  induction a with
  | nil => rfl
  | cons m a ih => rw [List.cons_append, Value.ofJsonMembers, ih, Value.ofJsonMembers, List.cons_append]

/-- What is around a part of JSON becomes layers around the value of the part. -/
theorem ofJson_fill (layers : List Layer) (j : Json) :
    Value.ofJson (fill layers j) = Value.fill (layers.map Layer.frame) (.ofJson j) := by
  induction layers with
  | nil => rfl
  | cons layer layers ih =>
    show Value.ofJson (layer.fill (fill layers j)) = layer.frame.fill (Value.fill (layers.map Layer.frame) (.ofJson j))
    rw [← ih]
    cases layer with
    | item before after => exact congrArg Value.list (ofJsonItems_append _ _)
    | member before name after => exact congrArg Value.map (ofJsonMembers_append _ _)

end Json

namespace Plain

/-- One layer around a part of plain data. -/
inductive Layer where
  | item (before after : List Plain)
  | present

/-- The plain data with some plain data in a layer. -/
def Layer.fill (x : Plain) : Layer → Plain
  | .item before after => .list (before ++ x :: after)
  | .present => .present x

/-- Layers around some plain data, the outermost first. -/
def fill (layers : List Layer) (x : Plain) : Plain :=
  layers.foldr (fun layer y => layer.fill y) x

/-- The layer of a value that a layer of plain data becomes. What is present leaves no trace. -/
def Layer.frames : Layer → List Value.Frame
  | .item before after => [.item (toValues before) (toValues after)]
  | .present => []

/-- What is around a part of plain data becomes layers around the value of the part. -/
theorem toValue_fill (layers : List Layer) (x : Plain) :
    (fill layers x).toValue = Value.fill (layers.flatMap Layer.frames) x.toValue := by
  induction layers with
  | nil => rfl
  | cons layer layers ih =>
    rw [List.flatMap_cons, Value.fill_append, ← ih]
    show (layer.fill (fill layers x)).toValue = _
    cases layer with
    | item before after =>
      show Value.list (toValues (before ++ fill layers x :: after)) =
        .list (toValues before ++ (fill layers x).toValue :: toValues after)
      simp only [toValues_eq_map, List.map_append, List.map_cons]
    | present => rfl

end Plain

end QueryTemplate
