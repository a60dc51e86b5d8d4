import QueryTemplate.Proofs.Number.Machine
import QueryTemplate.Proofs.Parameter.Framed
import QueryTemplate.Proofs.Render.Json

/-!
# Integers of every type

Programs have integers of ten types and JSON has its own, and each of them comes to a value in more than one way: described
as a parameter or taken at once, by itself or as a part of something (`Carries`). Whatever the way, an integer has its one
representation in the value, and it is refused only if it has none (`Carries.one_representation`).
-/

namespace QueryTemplate

/-! ## One rule -/

/-- The error for an integer without representation. -/
def outOfRange (n : Int) : Error :=
  .conversion ("integer " ++ toString n ++ " out of range")

/-- What an integer comes to by itself: its one representation, or the error that it has none. -/
def integerValue (n : Int) : Except Error Value :=
  match Number.ofInt? n with
  | some x => .ok (.number x)
  | none => .error (outOfRange n)

theorem integerValue_of_represents {n : Int} {x : Number} (h : Number.Represents n x) :
    integerValue n = .ok (.number x) := by
  rw [integerValue, Number.ofInt?_eq_some_iff.mpr h]

theorem integerValue_of_outside {n : Int} (h : n < -2 ^ 63 ∨ 2 ^ 64 ≤ n) : integerValue n = .error (outOfRange n) := by
  rw [integerValue, Number.ofInt?_eq_none h]

/-- The integers of all types are described as the one rule says. -/
theorem Parameter.toValue_integer (n : MachineInt) : (integer n).toValue = integerValue n.toInt := by
  show convertInteger n = _
  rw [convertInteger]
  rcases Number.exists_represents n.toInt with ⟨x, hx⟩ | houtside
  · rw [MachineInt.described?_eq_some_iff.mpr hx, integerValue_of_represents hx]
  · rw [MachineInt.described?_eq_none houtside, integerValue_of_outside houtside, outOfRange]

/-- The integers of the types of at most 64 bits are taken as the one rule says. -/
theorem Plain.toValue_integer (n : NarrowInt) : integerValue n.toInt = .ok (integer n).toValue :=
  integerValue_of_represents n.represents_taken

/-! ## Integers in JSON -/

/-- A JSON number that is an integer. -/
inductive JsonInt where
  | natural (n : UInt64)
  | negative (n : Int64)

namespace JsonInt

def toInt : JsonInt → Int
  | .natural n => n.toNat
  | .negative n => n.toInt

def toJson : JsonInt → Json
  | .natural n => .natural n
  | .negative n => .negative n

/-- A JSON integer is taken as the one rule says. -/
theorem integerValue_toInt (n : JsonInt) : integerValue n.toInt = .ok (.ofJson n.toJson) := by
  cases n with
  | natural n => exact integerValue_of_represents (Number.represents_ofUInt64 n)
  | negative n => exact integerValue_of_represents (Number.represents_int_iff.mpr rfl)

end JsonInt

/-! ## Ways to a value -/

open Parameter (Hole)
open Value (Frame)

/-- A way on which an integer comes to a value: the integer, the layers around it in the value, and the outcome. It is
described, or taken at once, by itself; or it is a part of a parameter, of JSON that is a part of a parameter, of plain data,
or of JSON that is a part of plain data. -/
inductive Carries : Int → List Frame → Except Error Value → Prop where
  | described (n : MachineInt) : Carries n.toInt [] (Parameter.integer n).toValue
  | taken (n : NarrowInt) : Carries n.toInt [] (.ok (Plain.integer n).toValue)
  | ofParameter {holes : List Hole} {frames : List (List Frame)} (h : List.Forall₂ Hole.Becomes holes frames)
      (n : MachineInt) : Carries n.toInt frames.flatten (Parameter.fillHoles holes (.integer n)).toValue
  | ofParameterJson {holes : List Hole} {frames : List (List Frame)} (h : List.Forall₂ Hole.Becomes holes frames)
      (layers : List Json.Layer) (n : JsonInt) :
      Carries n.toInt (frames.flatten ++ layers.map Json.Layer.frame)
        (Parameter.fillHoles holes (.ofJson (Json.fill layers n.toJson))).toValue
  | ofPlain (layers : List Plain.Layer) (n : NarrowInt) :
      Carries n.toInt (layers.flatMap Plain.Layer.frames) (.ok (Plain.fill layers (.integer n)).toValue)
  | ofPlainJson (layers : List Plain.Layer) (inner : List Json.Layer) (n : JsonInt) :
      Carries n.toInt (layers.flatMap Plain.Layer.frames ++ inner.map Json.Layer.frame)
        (.ok (Plain.fill layers (.json (Json.fill inner n.toJson))).toValue)

namespace Carries

variable {n : Int} {frames : List Frame} {outcome : Except Error Value}

/-- On every way the outcome is that of the one rule, within the layers around the integer. -/
theorem eq_map (h : Carries n frames outcome) : outcome = (integerValue n).map (Value.fill frames) := by
  cases h with
  | described n =>
    rw [Parameter.toValue_integer]
    cases integerValue n.toInt <;> rfl
  | taken n =>
    rw [Plain.toValue_integer]
    rfl
  | ofParameter h n => rw [Parameter.toValue_fillHoles h, Parameter.toValue_integer]
  | ofParameterJson h layers n =>
    rw [Parameter.toValue_fillHoles h, Parameter.toValue_ofJson, n.integerValue_toInt, Json.ofJson_fill]
    exact congrArg Except.ok (Value.fill_append _ _ _).symm
  | ofPlain layers n =>
    rw [Plain.toValue_fill, Plain.toValue_integer]
    rfl
  | ofPlainJson layers inner n =>
    rw [Plain.toValue_fill, Plain.toValue, Json.ofJson_fill, n.integerValue_toInt]
    exact congrArg Except.ok (Value.fill_append _ _ _).symm

theorem eq_ok_of_represents (h : Carries n frames outcome) {x : Number} (hx : Number.Represents n x) :
    outcome = .ok (Value.fill frames (.number x)) := by
  rw [h.eq_map, integerValue_of_represents hx]
  rfl

theorem eq_error_of_outside (h : Carries n frames outcome) (houtside : n < -2 ^ 63 ∨ 2 ^ 64 ≤ n) :
    outcome = .error (outOfRange n) := by
  rw [h.eq_map, integerValue_of_outside houtside]
  rfl

/-- An integer has a representation in the value on its way, or else it is out of range. -/
theorem exists_represents_of_ok (h : Carries n frames outcome) {v : Value} (hv : outcome = .ok v) :
    ∃ x, Number.Represents n x ∧ v = Value.fill frames (.number x) := by
  rcases Number.exists_represents n with ⟨x, hx⟩ | houtside
  · exact ⟨x, hx, Except.ok.inj (hv.symm.trans (h.eq_ok_of_represents hx))⟩
  · rw [h.eq_error_of_outside houtside] at hv
    cases hv

/-- On every way an integer comes to its one representation, within the layers that are around it, and it is refused, as out
of range, if and only if it has none. Two integers that come to values on any two ways, with the same layers around them but
for optional ones on the outside, are bound as the same argument if and only if they are the same integer. -/
theorem one_representation (h : Carries n frames outcome) :
    (∀ v, outcome = .ok v ↔ ∃ x, Number.Represents n x ∧ v = Value.fill frames (.number x)) ∧
      (∀ e, outcome = .error e ↔ (n < -2 ^ 63 ∨ 2 ^ 64 ≤ n) ∧ e = outOfRange n) ∧
      ∀ {m : Int} {others : List Frame} {outcome' : Except Error Value} {v w : Value}, Carries m others outcome' →
        Value.bare others = Value.bare frames → outcome = .ok v → outcome' = .ok w →
        (v.toArgument = w.toArgument ↔ n = m) := by
  refine ⟨fun v => ⟨h.exists_represents_of_ok, ?_⟩, fun e => ⟨fun he => ?_, ?_⟩, ?_⟩
  · rintro ⟨x, hx, rfl⟩
    exact h.eq_ok_of_represents hx
  · rcases Number.exists_represents n with ⟨x, hx⟩ | houtside
    · rw [h.eq_ok_of_represents hx] at he
      cases he
    · exact ⟨houtside, (Except.error.inj (he.symm.trans (h.eq_error_of_outside houtside)))⟩
  · rintro ⟨houtside, rfl⟩
    exact h.eq_error_of_outside houtside
  · intro m others outcome' v w h' hframes hv hw
    obtain ⟨x, hx, rfl⟩ := h.exists_represents_of_ok hv
    obtain ⟨y, hy, rfl⟩ := h'.exists_represents_of_ok hw
    rw [Value.toArgument_fill, Value.toArgument_fill, hframes]
    constructor
    · intro hargument
      cases Value.fill_injective (Except.ok.inj hargument)
      exact hx.injective hy
    · rintro rfl
      rw [hx.unique hy]

/-- The least integer that is not signed, in an optional field; the least natural number without representation, in a list; and
a list with an integer of a program, which is described as optional, beside plain data with the same integer as JSON. -/
theorem one_representation_at_bounds :
    (Parameter.record [("id", .optional (.integer (.i128 9223372036854775808)))]).toValue =
        .ok (.record [("id", .optional (.number (.uint 9223372036854775808)))]) ∧
      (Parameter.list [.null, .integer (.u128 18446744073709551616)]).toValue =
        .error (.conversion "integer 18446744073709551616 out of range") ∧
      (Value.optional (.list [.number (.int 7)])).toArgument = (Value.list [.number (.int 7)]).toArgument := by
  refine ⟨?_, ?_, ?_⟩
  · have hholes : List.Forall₂ Hole.Becomes [.layer (.slot (.field [] "id" [])), .layer .optional]
        [[.field [] "id" []], [.optional]] :=
      .cons (.field "id" rfl rfl) (.cons .optional .nil)
    have hinteger : (MachineInt.i128 9223372036854775808).toInt = 9223372036854775808 := by decide
    have h := Carries.ofParameter hholes (.i128 9223372036854775808)
    rw [hinteger] at h
    exact (h.one_representation.1 _).mpr ⟨.uint 9223372036854775808, .uint (by decide) (by decide), rfl⟩
  · have hholes : List.Forall₂ Hole.Becomes [.layer (.item [.null] [])] [[.item [.null] []]] :=
      .cons (.item rfl rfl) .nil
    have hinteger : (MachineInt.u128 18446744073709551616).toInt = 18446744073709551616 := by decide
    have h := Carries.ofParameter hholes (.u128 18446744073709551616)
    rw [hinteger] at h
    exact (h.one_representation.2.1 _).mpr ⟨Or.inr (by decide), by decide⟩
  · have hholes : List.Forall₂ Hole.Becomes [.layer .optional, .layer (.item [] [])] [[.optional], [.item [] []]] :=
      .cons .optional (.cons (.item rfl rfl) .nil)
    have h := Carries.ofParameter hholes (.narrow (.u8 7))
    have hjson := Carries.ofPlainJson [.present] [.item [] []] (.natural 7)
    exact (h.one_representation.2.2 hjson rfl rfl rfl).mpr rfl

end Carries

end QueryTemplate
