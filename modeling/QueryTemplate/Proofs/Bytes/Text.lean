import QueryTemplate.Error
import QueryTemplate.Proofs.Text.Boundary

/-!
# Texts as bytes

A text is written in UTF-8, and an offset in bytes may be inside a character or behind the end. What depends on an offset is
optional here: a part of a text exists only between boundaries (`fromByte?_eq_some_iff`). Bytes below 128 stand for
themselves and occur nowhere else (`byteOf_mem_utf8EncodeChar`), so who finds one of them has found a boundary.

A computation that uses such parts breaks off where one does not exist (`Checked`).
-/

namespace QueryTemplate

/-! ## Parts between offsets -/

/-- The part of a text from an offset on, if the offset is a boundary. -/
def fromByte? : List Char → Nat → Option (List Char)
  | s, 0 => some s
  | [], _ + 1 => none
  | c :: s, n + 1 => if c.utf8Size ≤ n + 1 then fromByte? s (n + 1 - c.utf8Size) else none

/-- The part of a text up to an offset, if the offset is a boundary. -/
def uptoByte? (s : List Char) (offset : Nat) : Option (List Char) :=
  (fromByte? s offset).map fun rest => s.take (s.length - rest.length)

/-- The part of a text between two offsets, if they are boundaries in order. -/
def betweenBytes? (s : List Char) (start stop : Nat) : Option (List Char) :=
  if start ≤ stop then (fromByte? s start).bind fun rest => uptoByte? rest (stop - start) else none

/-- A difference that is not negative. -/
def minus? (m n : Nat) : Option Nat :=
  if n ≤ m then some (m - n) else none

/-- A text can be cut where a part of it ends, and the rest is left. -/
theorem fromByte?_append (before rest : List Char) : fromByte? (before ++ rest) (utf8Length before) = some rest := by
  induction before with
  | nil => cases rest <;> rfl
  | cons c before ih =>
    have hc := c.utf8Size_pos
    obtain ⟨n, hn⟩ : ∃ n, utf8Length (c :: before) = n + 1 := ⟨utf8Length (c :: before) - 1, by simp; omega⟩
    have hle : c.utf8Size ≤ n + 1 := by
      rw [← hn, utf8Length_cons]
      exact Nat.le_add_right _ _
    have hrest : n + 1 - c.utf8Size = utf8Length before := by
      rw [← hn, utf8Length_cons, Nat.add_sub_cancel_left]
    rw [List.cons_append, hn, fromByte?, if_pos hle, hrest, ih]

/-- A part from an offset on exists exactly if the offset is the length of what stands before it. -/
theorem fromByte?_eq_some_iff {s rest : List Char} {offset : Nat} :
    fromByte? s offset = some rest ↔ ∃ before, s = before ++ rest ∧ offset = utf8Length before := by
  constructor
  · intro h
    fun_induction fromByte? s offset with
    | case1 s => exact ⟨[], by simpa using h, rfl⟩
    | case2 => cases h
    | case3 c s n hle ih =>
      obtain ⟨before, rfl, hoffset⟩ := ih h
      exact ⟨c :: before, rfl, by rw [utf8Length_cons]; omega⟩
    | case4 => cases h
  · rintro ⟨before, rfl, rfl⟩
    exact fromByte?_append before rest

/-- A part up to an offset exists exactly if the offset is its length. -/
theorem uptoByte?_eq_some_iff {s before : List Char} {offset : Nat} :
    uptoByte? s offset = some before ↔ ∃ rest, s = before ++ rest ∧ offset = utf8Length before := by
  rw [uptoByte?, Option.map_eq_some_iff]
  constructor
  · rintro ⟨rest, hrest, rfl⟩
    obtain ⟨front, rfl, rfl⟩ := fromByte?_eq_some_iff.mp hrest
    exact ⟨rest, by simp, by simp⟩
  · rintro ⟨rest, rfl, rfl⟩
    exact ⟨rest, fromByte?_append before rest, by simp⟩

/-- It can be cut there with the part left. -/
theorem uptoByte?_append (before rest : List Char) : uptoByte? (before ++ rest) (utf8Length before) = some before :=
  uptoByte?_eq_some_iff.mpr ⟨rest, rfl, rfl⟩

/-- A part in the middle can be cut out of a text. -/
theorem betweenBytes?_append (before inside after : List Char) :
    betweenBytes? (before ++ inside ++ after) (utf8Length before) (utf8Length (before ++ inside)) = some inside := by
  have hle : utf8Length before ≤ utf8Length (before ++ inside) := by simp
  have hlength : utf8Length (before ++ inside) - utf8Length before = utf8Length inside := by simp
  rw [betweenBytes?, if_pos hle, List.append_assoc, fromByte?_append, hlength]
  exact uptoByte?_append inside after

/-! ## Bytes -/

/-- The bytes of a text. -/
def utf8Bytes (s : List Char) : List UInt8 :=
  s.flatMap String.utf8EncodeChar

/-- The byte of an ASCII character. -/
def byteOf (c : Char) : UInt8 :=
  UInt8.ofNat c.toNat

/-- These are the bytes of the string. -/
theorem toByteArray_utf8Bytes (s : String) : (utf8Bytes s.toList).toByteArray = s.toByteArray := by
  have hs : s.toByteArray = (String.ofList s.toList).toByteArray := by rw [String.ofList_toList]
  rw [hs, String.toByteArray_ofList]
  rfl

/-- The bytes of two parts follow each other. -/
theorem utf8Bytes_append (s t : List Char) : utf8Bytes (s ++ t) = utf8Bytes s ++ utf8Bytes t :=
  List.flatMap_append

/-- There are as many bytes as the length says. -/
theorem length_utf8Bytes (s : List Char) : (utf8Bytes s).length = utf8Length s := by
  induction s with
  | nil => rfl
  | cons c s ih =>
    rw [utf8Bytes, List.flatMap_cons, List.length_append, String.length_utf8EncodeChar, utf8Length_cons]
    exact congrArg _ ih

/-- A character of the first 128 is one byte. -/
theorem utf8EncodeChar_of_lt {c : Char} (h : c.toNat < 128) : String.utf8EncodeChar c = [byteOf c] := by
  have hle : c.val.toNat ≤ 127 := Nat.le_of_lt_succ h
  rw [String.utf8EncodeChar]
  simp only [if_pos hle]
  rfl

/-- The bytes of a character that is not an ASCII character are no bytes of ASCII characters. -/
theorem le_of_mem_utf8EncodeChar {c : Char} (h : 128 ≤ c.toNat) {b : UInt8} (hb : b ∈ String.utf8EncodeChar c) :
    128 ≤ b.toNat := by
  have hc : ¬c.val.toNat ≤ 127 := Nat.not_le_of_lt h
  rw [String.utf8EncodeChar] at hb
  simp only [if_neg hc] at hb
  split at hb
  · simp only [List.mem_cons, List.not_mem_nil, or_false] at hb
    rcases hb with rfl | rfl <;> rw [UInt8.toNat_ofNat'] <;> omega
  · split at hb
    · simp only [List.mem_cons, List.not_mem_nil, or_false] at hb
      rcases hb with rfl | rfl | rfl <;> rw [UInt8.toNat_ofNat'] <;> omega
    · simp only [List.mem_cons, List.not_mem_nil, or_false] at hb
      rcases hb with rfl | rfl | rfl | rfl <;> rw [UInt8.toNat_ofNat'] <;> omega

/-- This byte is the code point. -/
theorem toNat_byteOf {c : Char} (h : c.toNat < 128) : (byteOf c).toNat = c.toNat := by
  rw [byteOf, UInt8.toNat_ofNat']
  omega

/-- The byte of an ASCII character is found in this character only. -/
theorem byteOf_mem_utf8EncodeChar {a c : Char} (ha : a.toNat < 128) : byteOf a ∈ String.utf8EncodeChar c ↔ c = a := by
  constructor
  · intro h
    by_cases hc : c.toNat < 128
    · rw [utf8EncodeChar_of_lt hc, List.mem_singleton] at h
      have hnat := congrArg UInt8.toNat h
      rw [toNat_byteOf ha, toNat_byteOf hc] at hnat
      exact Char.toNat_inj.mp hnat.symm
    · have := le_of_mem_utf8EncodeChar (Nat.le_of_not_lt hc) h
      rw [toNat_byteOf ha] at this
      omega
  · rintro rfl
    rw [utf8EncodeChar_of_lt ha]
    exact List.mem_singleton_self _

/-- Behind its first byte a character has no byte of an ASCII character. -/
theorem le_of_getElem?_utf8EncodeChar {c : Char} {k : Nat} {b : UInt8}
    (h : (String.utf8EncodeChar c)[k + 1]? = some b) : 128 ≤ b.toNat := by
  by_cases hc : c.toNat < 128
  · rw [utf8EncodeChar_of_lt hc] at h
    cases h
  · exact le_of_mem_utf8EncodeChar (Nat.le_of_not_lt hc) (List.mem_of_getElem? h)

/-- The bytes of a character stand in the text behind those of the characters before it. -/
theorem getElem?_utf8Bytes (front : List Char) (c : Char) (rest : List Char) {k : Nat} (hk : k < c.utf8Size) :
    (utf8Bytes (front ++ c :: rest))[utf8Length front + k]? = (String.utf8EncodeChar c)[k]? := by
  rw [← length_utf8Bytes front, utf8Bytes_append, List.getElem?_append_right (Nat.le_add_right _ _),
    Nat.add_sub_cancel_left, utf8Bytes, List.flatMap_cons, List.getElem?_append_left]
  rwa [String.length_utf8EncodeChar]

/-- A byte of a character in a text is that of an ASCII character only if it is the first one and the character is this. -/
theorem exists_byte (front : List Char) (c : Char) (rest : List Char) {k : Nat} (hk : k < c.utf8Size) :
    ∃ b, (utf8Bytes (front ++ c :: rest))[utf8Length front + k]? = some b ∧
      ∀ a : Char, a.toNat < 128 → (b = byteOf a ↔ k = 0 ∧ c = a) := by
  obtain ⟨b, hb⟩ : ∃ b, (String.utf8EncodeChar c)[k]? = some b :=
    ⟨_, List.getElem?_eq_getElem (by rwa [String.length_utf8EncodeChar])⟩
  refine ⟨b, (getElem?_utf8Bytes front c rest hk).trans hb, fun a ha => ⟨?_, ?_⟩⟩
  · rintro rfl
    refine ⟨?_, (byteOf_mem_utf8EncodeChar ha).mp (List.mem_of_getElem? hb)⟩
    cases k with
    | zero => rfl
    | succ k =>
      have := le_of_getElem?_utf8EncodeChar hb
      rw [toNat_byteOf ha] at this
      omega
  · rintro ⟨rfl, rfl⟩
    rw [utf8EncodeChar_of_lt ha] at hb
    cases hb
    rfl

/-- The byte before a boundary is the last one of a character, and that of an ASCII character only if the character is this. -/
theorem exists_lastByte (front : List Char) (c : Char) (rest : List Char) :
    ∃ b, (utf8Bytes (front ++ c :: rest))[utf8Length front + c.utf8Size - 1]? = some b ∧
      ∀ a : Char, a.toNat < 128 → (b = byteOf a ↔ c = a) := by
  have hpos := c.utf8Size_pos
  obtain ⟨b, hb, hascii⟩ := exists_byte front c rest (Nat.sub_lt hpos Nat.one_pos)
  refine ⟨b, by rwa [Nat.add_sub_assoc hpos], fun a ha => (hascii a ha).trans ⟨And.right, fun hca => ⟨?_, hca⟩⟩⟩
  subst hca
  rw [← String.length_utf8EncodeChar, utf8EncodeChar_of_lt ha]
  rfl

/-- A byte read as a character is an ASCII character exactly if it is the byte of this character. -/
theorem ofNat_toNat_eq_iff {a : Char} (ha : a.toNat < 128) (b : UInt8) : Char.ofNat b.toNat = a ↔ b = byteOf a := by
  have hvalid : b.toNat.isValidChar := Or.inl (Nat.lt_trans b.toNat_lt (by decide))
  have htoNat : (Char.ofNat b.toNat).toNat = b.toNat := by
    rw [Char.ofNat, dif_pos hvalid]
    rfl
  rw [← Char.toNat_inj, htoNat, ← UInt8.toNat_inj, toNat_byteOf ha]

/-! ## Computations that may break off -/

/-- What comes of a computation: nothing if it breaks off, else a result or an error. -/
def Checked (α : Type) :=
  Option (Except Error α)

namespace Checked

variable {α β : Type}

/-- Breaks off without a value. -/
def require : Option α → Checked α
  | some a => some (.ok a)
  | none => none

/-- A computation that does not break off. -/
def outcome (x : Except Error α) : Checked α :=
  some x

/-- One computation after another. -/
def andThen (x : Checked α) (f : α → Checked β) : Checked β :=
  match x with
  | none => none
  | some (.error e) => some (.error e)
  | some (.ok a) => f a

instance : Monad Checked where
  pure a := some (.ok a)
  bind := andThen

@[simp] theorem pure_eq (a : α) : (pure a : Checked α) = outcome (.ok a) := rfl

@[simp] theorem require_some (a : α) : require (some a) = outcome (.ok a) := rfl

@[simp] theorem outcome_ok_bind (a : α) (f : α → Checked β) : outcome (.ok a) >>= f = f a := rfl

@[simp] theorem outcome_error_bind (e : Error) (f : α → Checked β) :
    outcome (.error e) >>= f = outcome (.error e) := rfl

/-- If no step breaks off, then a sequence of steps does not. -/
theorem outcome_bind {x : Except Error α} {f : α → Checked β} {g : α → Except Error β}
    (h : ∀ a, x = .ok a → f a = outcome (g a)) : outcome x >>= f = outcome (x >>= g) := by
  cases x with
  | ok a => exact h a rfl
  | error e => rfl

end Checked

end QueryTemplate
