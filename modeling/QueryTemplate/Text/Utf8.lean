/-!
# Offsets in bytes

Errors point into a source by the number of bytes that stand before the place, the source being written in UTF-8.
-/

namespace QueryTemplate

/-- The number of bytes of a text in UTF-8. -/
def utf8Length : List Char → Nat
  | [] => 0
  | c :: s => c.utf8Size + utf8Length s

/-- The offset at which `rest` begins in `source`, of which it is a suffix. -/
def offsetIn (source rest : List Char) : Nat :=
  utf8Length source - utf8Length rest

@[simp] theorem utf8Length_nil : utf8Length [] = 0 := rfl

@[simp] theorem utf8Length_cons (c : Char) (s : List Char) : utf8Length (c :: s) = c.utf8Size + utf8Length s := rfl

@[simp] theorem utf8Length_append (s t : List Char) : utf8Length (s ++ t) = utf8Length s + utf8Length t := by
  induction s with
  | nil => simp
  | cons c s ih => simp [ih, Nat.add_assoc]

/-- A suffix begins where the part before it ends. -/
theorem offsetIn_append (before rest : List Char) : offsetIn (before ++ rest) rest = utf8Length before := by
  simp [offsetIn]

/-- A string takes as many bytes as its characters. -/
theorem utf8ByteSize_ofList (cs : List Char) : (String.ofList cs).utf8ByteSize = utf8Length cs := by
  induction cs with
  | nil => rfl
  | cons c cs ih =>
    rw [← List.singleton_append, String.ofList_append, String.utf8ByteSize_append, ih, utf8Length_append]
    congr 1
    rw [← String.size_toByteArray, String.toByteArray_ofList, List.utf8Encode_singleton, List.size_toByteArray,
      String.length_utf8EncodeChar]
    simp

/-- The byte length of a string is that of its characters. -/
theorem utf8Length_toList (s : String) : utf8Length s.toList = s.utf8ByteSize := by
  rw [← utf8ByteSize_ofList, String.ofList_toList]

end QueryTemplate
