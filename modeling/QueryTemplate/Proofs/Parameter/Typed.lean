import QueryTemplate.Proofs.Parameter.Integer
import QueryTemplate.Proofs.Value.Unwrapped

/-!
# Data of a type

Plain data of a type (`DataType.Carrier`) has as many optional values around each of its parts as the type says. Taken at once
it loses them, and described as a parameter it keeps them, which is the only difference between the two: what is left without
them is what the data denotes (`DataType.Denotes`, `DataType.taken_eq_unwrapped`).
-/

namespace QueryTemplate

/-- An integer type of at most 64 bits. -/
inductive IntegerType where
  | i8
  | i16
  | i32
  | i64
  | u8
  | u16
  | u32
  | u64

namespace IntegerType

/-- The integers of a type. -/
def Carrier : IntegerType → Type
  | .i8 => Int8
  | .i16 => Int16
  | .i32 => Int32
  | .i64 => Int64
  | .u8 => UInt8
  | .u16 => UInt16
  | .u32 => UInt32
  | .u64 => UInt64

/-- An integer of a type as one of any of the types. -/
def toNarrow : (t : IntegerType) → t.Carrier → NarrowInt
  | .i8, n => .i8 n
  | .i16, n => .i16 n
  | .i32, n => .i32 n
  | .i64, n => .i64 n
  | .u8, n => .u8 n
  | .u16, n => .u16 n
  | .u32, n => .u32 n
  | .u64, n => .u64 n

end IntegerType

/-- A type of plain data. -/
inductive DataType where
  | bool
  | integer (t : IntegerType)
  | binary32
  | binary64
  | string
  | json
  | list (t : DataType)
  | option (t : DataType)

namespace DataType

/-- The data of a type. -/
def Carrier : DataType → Type
  | .bool => Bool
  | .integer t => t.Carrier
  | .binary32 => UInt32
  | .binary64 => Binary64
  | .string => String
  | .json => Json
  | .list t => List t.Carrier
  | .option t => Option t.Carrier

/-- Data of a type as plain data. -/
def toPlain : (t : DataType) → t.Carrier → Plain
  | .bool, b => .bool b
  | .integer t, n => .integer (t.toNarrow n)
  | .binary32, bits => .binary32 bits
  | .binary64, x => .binary64 x
  | .string, s => .string s
  | .json, j => .json j
  | .list t, xs => .list (List.map (toPlain t) xs)
  | .option _, none => .absent
  | .option t, some x => .present (toPlain t x)

/-- The value that data of a type stands for, part by part: an integer for its one representation, JSON for its value, and
what is absent for null. -/
def Denotes : (t : DataType) → t.Carrier → Value → Prop
  | .bool, b, v => v = .bool b
  | .integer t, n, v => ∃ x, Number.Represents (t.toNarrow n).toInt x ∧ v = .number x
  | .binary32, bits, v => v = .number (.float (.ofBinary32 bits))
  | .binary64, x, v => v = .number (.float x)
  | .string, s, v => v = .string s
  | .json, j, v => v = .ofJson j
  | .list t, xs, v => ∃ vs, List.Forall₂ (Denotes t) xs vs ∧ v = .list vs
  | .option _, none, v => v = .null
  | .option t, some x, v => Denotes t x v

/-- Whether some part of the data of a type may be absent. -/
def hasOption : DataType → Bool
  | .list t => t.hasOption
  | .option _ => true
  | _ => false

end DataType

/-- An integer in plain data is described as the number that it is taken as. -/
theorem Plain.toValue_toParameter_integer (n : NarrowInt) :
    (integer n).toParameter.toValue = .ok (integer n).toValue :=
  (Parameter.toValue_integer (.narrow n)).trans (toValue_integer n)

namespace DataType

/-- The elements of a list are described one by one, and taken one by one. -/
theorem exists_describes_list {t : DataType} (xs : List t.Carrier)
    (h : ∀ x, ∃ v, (t.toPlain x).toParameter.toValue = .ok v ∧ v.unwrapped = (t.toPlain x).toValue ∧
      (t.hasOption = false → v = (t.toPlain x).toValue)) :
    ∃ vs, Parameter.convertItems .whole (xs.map fun x => (t.toPlain x).toParameter) = .ok vs ∧
      Value.unwrappedItems vs = xs.map (fun x => (t.toPlain x).toValue) ∧
      (t.hasOption = false → vs = xs.map fun x => (t.toPlain x).toValue) := by
  induction xs with
  | nil => exact ⟨[], rfl, rfl, fun _ => rfl⟩
  | cons x xs ih =>
    obtain ⟨v, hv, hunwrapped, hsame⟩ := h x
    obtain ⟨vs, hvs, hrest, hsames⟩ := ih
    refine ⟨v :: vs, bind_eq_ok.mpr ⟨v, hv, bind_eq_ok.mpr ⟨vs, hvs, rfl⟩⟩, ?_, fun ht => ?_⟩
    · rw [Value.unwrappedItems, hunwrapped, hrest, List.map_cons]
    · rw [List.map_cons, hsame ht, hsames ht]

theorem toParameter_list (t : DataType) (xs : List t.Carrier) :
    (toPlain (.list t) xs).toParameter = .list (xs.map fun x => (t.toPlain x).toParameter) := by
  show Parameter.list (Plain.toParameters (xs.map t.toPlain)) = _
  rw [Plain.toParameters_eq_map, List.map_map]
  rfl

theorem toValue_list (t : DataType) (xs : List t.Carrier) :
    (toPlain (.list t) xs).toValue = .list (xs.map fun x => (t.toPlain x).toValue) := by
  show Value.list (Plain.toValues (xs.map t.toPlain)) = _
  rw [Plain.toValues_eq_map, List.map_map]
  rfl

/-- The elements of a list are taken as what they denote. -/
theorem forall₂_denotes {t : DataType} (h : ∀ x, t.Denotes x (t.toPlain x).toValue) (xs : List t.Carrier) :
    List.Forall₂ t.Denotes xs (xs.map fun x => (t.toPlain x).toValue) := by
  rw [List.forall₂_map_right_iff, List.forall₂_same]
  exact fun x _ => h x

/-- Data of any type is taken as what it denotes. -/
theorem denotes_toValue (t : DataType) (x : t.Carrier) : t.Denotes x (t.toPlain x).toValue := by
  induction t with
  | bool | binary32 | binary64 | string | json => rfl
  | integer t => exact ⟨_, (t.toNarrow x).represents_taken, rfl⟩
  | list t ih => exact ⟨_, forall₂_denotes ih x, toValue_list t x⟩
  | option t ih =>
    cases x with
    | none => rfl
    | some x => exact ih x

/-- What data of any type is described as is what it is taken as, but for optional layers, of which there are none if the
type has no options. -/
theorem exists_describes (t : DataType) (x : t.Carrier) :
    ∃ v, (t.toPlain x).toParameter.toValue = .ok v ∧ v.unwrapped = (t.toPlain x).toValue ∧
      (t.hasOption = false → v = (t.toPlain x).toValue) := by
  induction t with
  | bool => exact ⟨_, rfl, rfl, fun _ => rfl⟩
  | integer t => exact ⟨_, Plain.toValue_toParameter_integer (t.toNarrow x), rfl, fun _ => rfl⟩
  | binary32 => exact ⟨_, rfl, rfl, fun _ => rfl⟩
  | binary64 => exact ⟨_, rfl, rfl, fun _ => rfl⟩
  | string => exact ⟨_, rfl, rfl, fun _ => rfl⟩
  | json => exact ⟨_, Parameter.toValue_ofJson x, Value.unwrapped_ofJson x, fun _ => rfl⟩
  | list t ih =>
    obtain ⟨vs, hvs, hunwrapped, hsame⟩ := exists_describes_list x ih
    rw [toParameter_list t x, toValue_list t x]
    refine ⟨.list vs, bind_eq_ok.mpr ⟨vs, hvs, rfl⟩, ?_, fun ht => ?_⟩
    · rw [Value.unwrapped, hunwrapped]
    · rw [hsame ht]
  | option t ih =>
    cases x with
    | none => exact ⟨.null, rfl, rfl, fun ht => by cases ht⟩
    | some x =>
      obtain ⟨v, hv, hunwrapped, -⟩ := ih x
      exact ⟨.optional v, bind_eq_ok.mpr ⟨v, hv, rfl⟩, hunwrapped, fun ht => by cases ht⟩

/-- Data of any type can be described and taken at once. What it is described as is what it is taken as, but for optional
layers, of which there are none if the type has no options, and what it is taken as is what it denotes. -/
theorem taken_eq_unwrapped (t : DataType) (x : t.Carrier) :
    ∃ v, (t.toPlain x).toParameter.toValue = .ok v ∧ v.unwrapped = (t.toPlain x).toValue ∧
      (t.hasOption = false → v = (t.toPlain x).toValue) ∧ t.Denotes x (t.toPlain x).toValue := by
  obtain ⟨v, hv, hunwrapped, hsame⟩ := t.exists_describes x
  exact ⟨v, hv, hunwrapped, hsame, t.denotes_toValue x⟩

/-- What is absent within what is present is null in both ways, and an integer above the signed ones is unsigned in both. -/
theorem taken_eq_unwrapped_in_options :
    (toPlain (.list (.option (.option (.integer .u64))))
        [some none, some (some (9223372036854775808 : UInt64)), none]).toParameter.toValue =
        .ok (.list [.optional .null, .optional (.optional (.number (.uint 9223372036854775808))), .null]) ∧
      (toPlain (.list (.option (.option (.integer .u64))))
        [some none, some (some (9223372036854775808 : UInt64)), none]).toValue =
        .list [.null, .number (.uint 9223372036854775808), .null] := by
  have hdescribed :
      (toPlain (.list (.option (.option (.integer .u64))))
        [some none, some (some (9223372036854775808 : UInt64)), none]).toParameter.toValue =
        .ok (.list [.optional .null, .optional (.optional (.number (.uint 9223372036854775808))), .null]) := by
    rfl
  obtain ⟨v, hv, hunwrapped, -, -⟩ := taken_eq_unwrapped (.list (.option (.option (.integer .u64))))
    [some none, some (some (9223372036854775808 : UInt64)), none]
  cases hdescribed.symm.trans hv
  exact ⟨hdescribed, hunwrapped.symm⟩

end DataType

end QueryTemplate
