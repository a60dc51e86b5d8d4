import QueryTemplate.Render.Rendered

/-!
# A place in a value

A place in a value is given by what is around it, from the outside inwards (`Value.Frame`). What stands at a place can be told
from the whole value (`Value.fill_injective`), and also from the argument that the value is bound as, which lacks only the
optional layers on the outside (`Value.toArgument_fill`).
-/

namespace QueryTemplate

namespace Value

/-- One layer around a part of a value. -/
inductive Frame where
  | optional
  | item (before after : List Value)
  | key (before : List (Value × Value)) (v : Value) (after : List (Value × Value))
  | entry (before : List (Value × Value)) (key : Value) (after : List (Value × Value))
  | field (before : List (String × Value)) (name : String) (after : List (String × Value))

namespace Frame

/-- The layer around some value. -/
def fill (w : Value) : Frame → Value
  | .optional => .optional w
  | .item before after => .list (before ++ w :: after)
  | .key before v after => .map (before ++ (w, v) :: after)
  | .entry before k after => .map (before ++ (k, w) :: after)
  | .field before name after => .record (before ++ (name, w) :: after)

def isOptional : Frame → Bool
  | .optional => true
  | _ => false

/-- What stands in a layer can be told from the whole. -/
theorem fill_injective (frame : Frame) {v w : Value} (h : frame.fill v = frame.fill w) : v = w := by
  cases frame with
  | optional => exact Value.optional.inj h
  | item before after => exact (List.cons.inj (List.append_cancel_left (Value.list.inj h))).1
  | key before v after =>
    exact congrArg Prod.fst (List.cons.inj (List.append_cancel_left (Value.map.inj h))).1
  | entry before k after =>
    exact congrArg Prod.snd (List.cons.inj (List.append_cancel_left (Value.map.inj h))).1
  | field before name after =>
    exact congrArg Prod.snd (List.cons.inj (List.append_cancel_left (Value.record.inj h))).1

end Frame

/-- Layers around some value, the outermost first. -/
def fill (frames : List Frame) (w : Value) : Value :=
  frames.foldr (fun frame v => frame.fill v) w

/-- Layers within layers are filled from the inside. -/
theorem fill_append (outer inner : List Frame) (w : Value) : fill (outer ++ inner) w = fill outer (fill inner w) :=
  List.foldr_append

/-- What stands in layers within each other can be told from the whole. -/
theorem fill_injective {frames : List Frame} {v w : Value} (h : fill frames v = fill frames w) : v = w := by
  induction frames with
  | nil => exact h
  | cons frame frames ih => exact ih (frame.fill_injective h)

/-- The layers without the optional ones on the outside. -/
def bare (frames : List Frame) : List Frame :=
  frames.dropWhile Frame.isOptional

/-- A value is bound without the optional layers on the outside. -/
theorem toArgument_fill (frames : List Frame) (x : Number) :
    (fill frames (.number x)).toArgument = .ok (fill (bare frames) (.number x)) := by
  induction frames with
  | nil => rfl
  | cons frame frames ih =>
    cases frame with
    | optional => exact ih
    | _ => rfl

end Value

end QueryTemplate
