import QueryTemplate.Error
import QueryTemplate.Parameter
import QueryTemplate.PathTree
import QueryTemplate.Value.Shown

/-!
# Converting parameters to values

`Parameter.convert` converts the parts of a parameter that a tree of paths needs; what no path needs is left out, and
it does not matter whether it could be converted. `Parameter.toValue` converts all of it.

A variant without content becomes its name, and any other variant a map with one entry under its name. Integers become
signed ones of 64 bits wherever they fit, whatever their type.
-/

namespace QueryTemplate

/-- The number that an integer of at most 64 bits is described as. All types but one fit the signed integers of 64 bits. -/
def NarrowInt.described : NarrowInt → Number
  | .i8 n => .int n.toInt64
  | .i16 n => .int n.toInt64
  | .i32 n => .int n.toInt64
  | .i64 n => .int n
  | .u8 n => .int (Int64.ofNat n.toNat)
  | .u16 n => .int (Int64.ofNat n.toNat)
  | .u32 n => .int (Int64.ofNat n.toNat)
  | .u64 n => .ofUInt64 n

/-- The number that an integer is described as, if it has one. A signed integer of 128 bits is a signed one of 64 bits if it
fits, else an unsigned one; an unsigned integer of 128 bits is what it is as one of 64 bits. -/
def MachineInt.described? : MachineInt → Option Number
  | .narrow n => some n.described
  | .i128 n =>
    match int64? n.toInt with
    | some m => some (.int m)
    | none => (uint64? n.toInt).map .uint
  | .u128 n => (uint64? n.toNat).map .ofUInt64

namespace Parameter

/-- The value of an integer of any type. -/
def convertInteger (n : MachineInt) : Except Error Value :=
  match n.described? with
  | some x => .ok (.number x)
  | none => .error (.conversion ("integer " ++ toString n.toInt ++ " out of range"))

/-- The reason that the content of an unbindable parameter gives: a string is the reason itself, anything else is
shown. -/
def reason : Value → String
  | .string message => message
  | v => v.shown

/-- What is needed of the map entry under a key. Paths lead only through string keys. -/
def entryFor? (paths : PathTree) (key : Value) : Option PathTree :=
  match paths, key with
  | .whole, _ => some .whole
  | paths, .string name => paths.entry? name
  | _, _ => none

mutual

/-- The value of a parameter, as far as the paths need it. -/
def convert (paths : PathTree) : Parameter → Except Error Value
  | .null => .ok .null
  | .bool b => .ok (.bool b)
  | .integer n => convertInteger n
  | .binary32 bits => .ok (.number (.float (.ofBinary32 bits)))
  | .binary64 x => .ok (.number (.float x))
  | .char c => .ok (.string (String.singleton c))
  | .string s => .ok (.string s)
  | .bytes bs => .ok (.bytes bs)
  | .optional inner => do return .optional (← convert paths inner)
  | .wrapper inner => convert paths inner
  | .unbindable content => do return .unbindable (reason (← convert paths content))
  | .variant name => .ok (.string name)
  | .variantOf name inner =>
    match paths.entry? name with
    | none => .ok (.map [])
    | some below => do return .map [(.string name, ← convert below inner)]
  | .variantList name items => do return .map [(.string name, .list (← convertItems paths.elements items))]
  | .variantRecord name fields =>
    match paths.entry? name with
    | none => .ok (.map [])
    | some below => do return .map [(.string name, .record (← convertFields below fields))]
  | .list items => do return .list (← convertItems paths.elements items)
  | .map steps => do return .map (← convertSteps paths none steps)
  | .record fields => do return .record (← convertFields paths fields)
  | .refused message => .error (.conversion message)

/-- The values of the elements of a list. -/
def convertItems (paths : PathTree) : List Parameter → Except Error (List Value)
  | [] => .ok []
  | item :: items => do
    let v ← convert paths item
    return v :: (← convertItems paths items)

/-- The entries of a map. A key waits for the next value, a later key replaces it, and a value needs one. Keys are
converted as a whole. -/
def convertSteps (paths : PathTree) (waiting : Option Value) :
    List (MapStep Parameter) → Except Error (List (Value × Value))
  | [] => .ok []
  | .key k :: steps => do
    let key ← convert .whole k
    convertSteps paths (some key) steps
  | .value v :: steps =>
    match waiting with
    | none => .error (.conversion "map value without a key")
    | some key =>
      match entryFor? paths key with
      | none => convertSteps paths none steps
      | some below => do
        let value ← convert below v
        return (key, value) :: (← convertSteps paths none steps)

/-- The fields of a record that are needed. -/
def convertFields (paths : PathTree) : List (String × Parameter) → Except Error (List (String × Value))
  | [] => .ok []
  | (name, v) :: fields =>
    match paths.entry? name with
    | none => convertFields paths fields
    | some below => do
      let value ← convert below v
      return (name, value) :: (← convertFields paths fields)

end

/-- The value of a whole parameter. -/
def toValue (p : Parameter) : Except Error Value :=
  p.convert .whole

end Parameter

end QueryTemplate
