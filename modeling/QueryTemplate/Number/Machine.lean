import QueryTemplate.Number

/-!
# Integers of the types of a program

Programs have signed and unsigned integers of 8 to 128 bits. An integer becomes a number on one of two ways, and each of them
has a rule for each type: it is taken as a value by itself (`NarrowInt.taken`) or described (`MachineInt.described?`).
-/

namespace QueryTemplate

/-- An integer of a type of at most 64 bits. -/
inductive NarrowInt where
  | i8 (n : Int8)
  | i16 (n : Int16)
  | i32 (n : Int32)
  | i64 (n : Int64)
  | u8 (n : UInt8)
  | u16 (n : UInt16)
  | u32 (n : UInt32)
  | u64 (n : UInt64)

/-- An integer of any type. -/
inductive MachineInt where
  | narrow (n : NarrowInt)
  | i128 (n : BitVec 128)
  | u128 (n : BitVec 128)

/-- The integer that an integer of a type is. -/
def NarrowInt.toInt : NarrowInt → Int
  | .i8 n => n.toInt
  | .i16 n => n.toInt
  | .i32 n => n.toInt
  | .i64 n => n.toInt
  | .u8 n => n.toNat
  | .u16 n => n.toNat
  | .u32 n => n.toNat
  | .u64 n => n.toNat

@[inherit_doc NarrowInt.toInt]
def MachineInt.toInt : MachineInt → Int
  | .narrow n => n.toInt
  | .i128 n => n.toInt
  | .u128 n => n.toNat

end QueryTemplate
