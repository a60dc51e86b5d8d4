import QueryTemplate.Assembly
import QueryTemplate.Proofs.Action.Stop
import QueryTemplate.Proofs.Bytes.Scan
import QueryTemplate.Proofs.Outcome

/-!
# Reading a source in bytes

The whole way from a source to its tree with every part of a text taken between offsets in bytes, every byte read at an offset
and every offset that is a difference of lengths: the loops over the source, the actions and, inside these, numbers and
character constants. Nothing breaks off on this way (`Bytes.parse_never_breaks_off`): every offset at which a text is cut is
in range and no offset stands inside a character, and every byte that is read exists.
-/

namespace QueryTemplate

namespace Bytes

open Checked

/-! ## Numbers -/

/-- An ASCII digit. -/
def isDigitByte (b : UInt8) : Bool :=
  byteOf '0' ≤ b && b ≤ byteOf '9'

/-- The radix that the first two bytes of a number mean, if they are a prefix. -/
def prefixRadix? (body : List Char) : Option Nat :=
  match uptoByte? body 2 with
  | some ['0', c] => Number.prefixRadix? c
  | _ => none

/-- The number that is written after a sign, its prefix cut off at an offset. -/
def magnitude (negative : Bool) (body : List Char) : Checked (Option Number) := do
  match prefixRadix? body with
  | some radix =>
    let digits ← require (fromByte? body 2)
    return Number.ofDigits? negative radix digits
  | none =>
    if 1 < utf8Length body ∧ body.head? = some '0' ∧ (utf8Bytes body).all isDigitByte then
      let digits ← require (fromByte? body 1)
      return Number.ofDigits? negative 8 digits
    else return Number.ofDecimalText? negative body

/-- The number that a spelling stands for, its sign cut off at an offset. -/
def number (spelling : List Char) : Checked (Option Number) := do
  let clean := spelling.filter (· != '_')
  if (utf8Bytes clean).head? = some (byteOf '-') then
    let body ← require (fromByte? clean 1)
    magnitude true body
  else if (utf8Bytes clean).head? = some (byteOf '+') then
    let body ← require (fromByte? clean 1)
    magnitude false body
  else magnitude false clean

/-- The bytes of digits are next to each other. -/
theorem isDigitByte_iff (b : UInt8) : isDigitByte b = true ↔ 48 ≤ b.toNat ∧ b.toNat ≤ 57 := by
  simp only [isDigitByte, Bool.and_eq_true, decide_eq_true_eq, UInt8.le_iff_toNat_le]
  rfl

/-- The code points of digits are the same numbers. -/
theorem isDigit_iff (c : Char) : c.isDigit = true ↔ 48 ≤ c.toNat ∧ c.toNat ≤ 57 := by
  simp only [Char.isDigit, Bool.and_eq_true, decide_eq_true_eq, ge_iff_le, UInt32.le_iff_toNat_le]
  rfl

/-- A text is made of digits if its bytes are digits. -/
theorem all_isDigitByte (s : List Char) : (utf8Bytes s).all isDigitByte = s.all Char.isDigit := by
  induction s with
  | nil => rfl
  | cons c s ih =>
    have hc : (String.utf8EncodeChar c).all isDigitByte = c.isDigit := by
      rw [Bool.eq_iff_iff, isDigit_iff]
      by_cases hlt : c.toNat < 128
      · rw [utf8EncodeChar_of_lt hlt, List.all_cons, List.all_nil, Bool.and_true, isDigitByte_iff, toNat_byteOf hlt]
      · constructor
        · intro hall
          obtain ⟨b, hb⟩ := List.exists_mem_of_length_pos (l := String.utf8EncodeChar c)
            (by rw [String.length_utf8EncodeChar]; exact c.utf8Size_pos)
          have hdigit := (isDigitByte_iff b).mp (List.all_eq_true.mp hall b hb)
          have hhigh := le_of_mem_utf8EncodeChar (Nat.le_of_not_lt hlt) hb
          omega
        · omega
    rw [List.all_cons, ← hc, ← ih, utf8Bytes, List.flatMap_cons, List.all_append]
    rfl

/-- A letter that means a radix takes one byte. -/
theorem utf8Size_of_prefixRadix? {c : Char} {radix : Nat} (h : Number.prefixRadix? c = some radix) : c.utf8Size = 1 := by
  have hletter : (c = 'x' ∨ c = 'X') ∨ (c = 'o' ∨ c = 'O') ∨ c = 'b' ∨ c = 'B' := by
    simp only [Number.prefixRadix?] at h
    split at h
    · exact Or.inl (by assumption)
    · split at h
      · exact Or.inr (Or.inl (by assumption))
      · split at h
        · exact Or.inr (Or.inr (by assumption))
        · cases h
  rcases hletter with (rfl | rfl) | (rfl | rfl) | rfl | rfl <;> rfl

/-- The radix is that of the second character, also where this takes more than one byte. -/
theorem prefixRadix?_zero (c : Char) (rest : List Char) : prefixRadix? ('0' :: c :: rest) = Number.prefixRadix? c := by
  by_cases hc : c.utf8Size = 1
  · have htwo : utf8Length ['0', c] = 2 := by rw [utf8Length_cons, utf8Length_cons, hc]; rfl
    have hprefix := uptoByte?_append ['0', c] rest
    rw [htwo] at hprefix
    rw [prefixRadix?, show '0' :: c :: rest = ['0', c] ++ rest from rfl, hprefix]
    simp
  · have hnone : uptoByte? ('0' :: c :: rest) 2 = none := by
      have hlong : ¬c.utf8Size ≤ 1 := by have := c.utf8Size_pos; omega
      have hrest : fromByte? (c :: rest) 1 = none := if_neg hlong
      have hzero : fromByte? ('0' :: c :: rest) 2 = fromByte? (c :: rest) 1 := rfl
      rw [uptoByte?, hzero, hrest, Option.map_none]
    rw [prefixRadix?, hnone]
    cases hradix : Number.prefixRadix? c with
    | none => rfl
    | some radix => exact absurd (utf8Size_of_prefixRadix? hradix) hc

/-- Only a zero begins a prefix. -/
theorem prefixRadix?_eq_none {body : List Char} (h : ∀ c rest, body ≠ '0' :: c :: rest) : prefixRadix? body = none := by
  rw [prefixRadix?]
  split
  · rename_i c hprefix
    obtain ⟨rest, hrest, -⟩ := uptoByte?_eq_some_iff.mp hprefix
    exact absurd hrest (h c rest)
  · rfl

/-- After a zero the prefix of a radix is looked for, and digits alone are no number. -/
theorem magnitude_zero (negative : Bool) (c : Char) (rest : List Char) :
    magnitude negative ('0' :: c :: rest) = outcome (.ok (Number.ofMagnitude? negative ('0' :: c :: rest))) := by
  rw [magnitude, prefixRadix?_zero, Number.ofMagnitude?, if_pos rfl]
  cases hradix : Number.prefixRadix? c with
  | some radix =>
    have htwo : utf8Length ['0', c] = 2 := by
      rw [utf8Length_cons, utf8Length_cons, utf8Size_of_prefixRadix? hradix]
      rfl
    have hrest : fromByte? ('0' :: c :: rest) 2 = some rest := htwo ▸ fromByte?_append ['0', c] rest
    rw [hrest]
    rfl
  | none =>
    have hlong : 1 < utf8Length ('0' :: c :: rest) := by
      have hc := c.utf8Size_pos
      rw [utf8Length_cons, utf8Length_cons, show '0'.utf8Size = 1 from rfl]
      omega
    have hrest : fromByte? ('0' :: c :: rest) 1 = some (c :: rest) := fromByte?_append ['0'] (c :: rest)
    have hdigits : (utf8Bytes ('0' :: c :: rest)).all isDigitByte = (c :: rest).all Char.isDigit :=
      all_isDigitByte ('0' :: c :: rest)
    dsimp only
    rw [hdigits, hrest]
    by_cases hall : (c :: rest).all Char.isDigit = true
    · rw [if_pos ⟨hlong, rfl, hall⟩, if_pos hall]
      rfl
    · rw [if_neg fun h => hall h.2.2, if_neg hall]
      rfl

/-- Without a leading zero before more characters there is no prefix to look at. -/
theorem magnitude_of_ne_zero (negative : Bool) {body : List Char} (hne : ∀ c rest, body ≠ '0' :: c :: rest) :
    magnitude negative body = outcome (.ok (Number.ofMagnitude? negative body)) := by
  have hshort : ¬(1 < utf8Length body ∧ body.head? = some '0' ∧ (utf8Bytes body).all isDigitByte = true) := by
    rintro ⟨hlong, hhead, -⟩
    obtain ⟨rest, rfl⟩ := List.head?_eq_some_iff.mp hhead
    cases rest with
    | nil => exact absurd hlong (by decide)
    | cons c rest => exact hne c rest rfl
  rw [magnitude, prefixRadix?_eq_none hne]
  dsimp only
  rw [if_neg hshort]
  unfold Number.ofMagnitude?
  split
  · rename_i zero c rest
    have hfirst : zero ≠ '0' := fun h => hne c rest (by rw [h])
    rw [if_neg hfirst]
    rfl
  · rfl

/-- A number without its sign is evaluated like its bytes. -/
theorem magnitude_eq (negative : Bool) (body : List Char) :
    magnitude negative body = outcome (.ok (Number.ofMagnitude? negative body)) := by
  by_cases hzero : ∃ c rest, body = '0' :: c :: rest
  · obtain ⟨c, rest, rfl⟩ := hzero
    exact magnitude_zero negative c rest
  · exact magnitude_of_ne_zero negative fun c rest h => hzero ⟨c, rest, h⟩

/-- The first byte is that of an ASCII character exactly if the text begins with it. -/
theorem head?_utf8Bytes_eq_iff {a : Char} (ha : a.toNat < 128) (s : List Char) :
    (utf8Bytes s).head? = some (byteOf a) ↔ s.head? = some a := by
  cases s with
  | nil => simp [utf8Bytes]
  | cons c s =>
    obtain ⟨b, hb, hascii⟩ := exists_byte [] c s c.utf8Size_pos
    rw [List.head?_eq_getElem?]
    simp only [List.nil_append, utf8Length_nil, Nat.add_zero] at hb
    rw [hb, Option.some_inj, hascii a ha, List.head?_cons, Option.some_inj]
    exact and_iff_right rfl

/-- A spelling is evaluated like its bytes, which never breaks off. -/
theorem number_eq (spelling : List Char) : number spelling = outcome (.ok (Number.ofSpelling? spelling)) := by
  rw [number, Number.ofSpelling?]
  cases hclean : spelling.filter (· != '_') with
  | nil => rfl
  | cons c body =>
    have hhead : ∀ a : Char, a.toNat < 128 → ((utf8Bytes (c :: body)).head? = some (byteOf a) ↔ c = a) := by
      intro a ha
      rw [head?_utf8Bytes_eq_iff ha, List.head?_cons, Option.some_inj]
    simp only [hhead '-' (by decide), hhead '+' (by decide)]
    by_cases hminus : c = '-'
    · subst hminus
      have hbody : fromByte? ('-' :: body) 1 = some body := fromByte?_append ['-'] body
      rw [if_pos rfl, if_pos rfl, hbody, require_some, outcome_ok_bind, magnitude_eq]
    · by_cases hplus : c = '+'
      · subst hplus
        have hbody : fromByte? ('+' :: body) 1 = some body := fromByte?_append ['+'] body
        rw [if_neg hminus, if_neg hminus, if_pos rfl, if_pos rfl, hbody, require_some, outcome_ok_bind, magnitude_eq]
      · rw [if_neg hminus, if_neg hminus, if_neg hplus, if_neg hplus, magnitude_eq]

/-! ## Character constants and actions -/

/-- A character constant with its spelling, which is cut out of the text by the length of the rest. -/
def charConstant (s : List Char) : Checked (Reading (Char × List Char)) := do
  match Reader.charConstant s with
  | .done c rest =>
    let length ← require (minus? (utf8Length s) (utf8Length rest))
    let spelling ← require (uptoByte? s length)
    return .done (c, spelling) rest
  | .miss place => return .miss place
  | .fail place => return .fail place

/-- The action that a body is, or where it goes wrong, by the length of the rest. -/
def ofBody (body : List Char) : Checked (Except (Nat × SyntaxError) Action) := do
  match Reader.spacedAction body with
  | .done a [] => return .ok a
  | .done _ place | .miss place | .fail place =>
    let offset ← require (minus? (utf8Length body) (utf8Length place))
    return .error (offset, Action.unexpected place)

/-- The lengths of a text and of what is left of it may be subtracted. -/
theorem minus?_of_suffix {s rest : List Char} (h : rest <:+ s) :
    minus? (utf8Length s) (utf8Length rest) = some (offsetIn s rest) := by
  obtain ⟨before, rfl⟩ := h
  rw [minus?, if_pos (by simp), offsetIn]

/-- The spelling of a character constant is cut out of the text. -/
theorem charConstant_eq (s : List Char) :
    charConstant s = outcome (.ok (Reader.withSpelling Reader.charConstant s)) := by
  rw [charConstant, Reader.withSpelling]
  cases hread : Reader.charConstant s with
  | done c rest =>
    have hrest := Reader.stopsWithin_charConstant.done hread
    dsimp only
    rw [minus?_of_suffix hrest]
    obtain ⟨before, rfl⟩ := hrest
    rw [require_some, outcome_ok_bind, offsetIn_append, uptoByte?_append, require_some, outcome_ok_bind]
    simp
  | miss place => rfl
  | fail place => rfl

/-- The offset of a malformed action may be subtracted. -/
theorem ofBody_eq (body : List Char) : ofBody body = outcome (.ok (Action.ofBody body)) := by
  have hstops := Reader.stopsWithin_spacedAction body
  rw [ofBody, Action.ofBody]
  cases hread : Reader.spacedAction body with
  | done a rest =>
    rw [hread, Reading.left_done] at hstops
    cases rest with
    | nil => rfl
    | cons c rest =>
      dsimp only
      rw [minus?_of_suffix hstops]
      rfl
  | miss place | fail place =>
    simp only [hread, Reading.left_miss, Reading.left_fail] at hstops
    dsimp only
    rw [minus?_of_suffix hstops]
    rfl

/-! ## Sources -/

/-- Reads the action of an item. -/
def ofItem : Item → Checked Piece
  | .text s => return .text s
  | .comment s => return .comment s
  | .action offset body => do
    match ← ofBody body with
    | .ok a => return .action offset a
    | .error (place, cause) => outcome (.error (.parse (offset + place) cause))

/-- The tree of a source. -/
def parse (source : String) : Checked (List Node) := do
  let items ← scan source.toList 0 false
  let assembly ← items.foldlM (fun a item => do
    let piece ← ofItem item
    outcome (Assembly.add a piece)) Assembly.empty
  outcome assembly.finish

/-- An item becomes the same piece. -/
theorem ofItem_eq (item : Item) : ofItem item = outcome (Piece.ofItem item) := by
  cases item with
  | text s | comment s => rfl
  | action offset body =>
    rw [ofItem, ofBody_eq, outcome_ok_bind, Piece.ofItem]
    cases Action.ofBody body <;> rfl

/-- Steps that do not break off are not broken off one after the other. -/
theorem foldlM_outcome {α β : Type} {f : β → α → Checked β} {g : β → α → Except Error β}
    (h : ∀ b x, f b x = outcome (g b x)) (xs : List α) (b : β) : xs.foldlM f b = outcome (xs.foldlM g b) := by
  induction xs generalizing b with
  | nil => rfl
  | cons x xs ih =>
    rw [List.foldlM_cons, List.foldlM_cons, h]
    exact outcome_bind fun c _ => ih c

/-- A source has the same tree, or the same error. -/
theorem parse_eq_outcome (source : String) : parse source = outcome (Node.parse source) := by
  rw [parse, Node.parse, show scan source.toList 0 false = _ from scan_eq (List.nil_append _).symm false]
  refine outcome_bind fun items _ => ?_
  rw [Node.ofItems]
  have hstep : ∀ (a : Assembly) (item : Item),
      (ofItem item >>= fun piece => outcome (a.add piece)) = outcome (Piece.ofItem item >>= fun piece => a.add piece) := by
    intro a item
    rw [ofItem_eq]
    exact outcome_bind fun _ _ => rfl
  rw [foldlM_outcome hstep]
  exact outcome_bind fun _ _ => rfl

/-- Parsing never breaks off. Written over the bytes of the source, with every text cut between offsets in bytes and every
byte read at its offset, the way from a source to its tree comes to the result or the error of `Node.parse`: no offset is out
of range, and none at which a text is cut stands inside a character. So do the splitting of a source, the reading of an
action, of a character constant and of a number, each of them on whatever text it is used. -/
theorem parse_never_breaks_off :
    (∀ source : String, parse source = outcome (Node.parse source)) ∧
      (∀ source : List Char, scan source 0 false = outcome (Item.ofSource source)) ∧
      (∀ body : List Char, ofBody body = outcome (.ok (Action.ofBody body))) ∧
      (∀ s : List Char, charConstant s = outcome (.ok (Reader.withSpelling Reader.charConstant s))) ∧
      ∀ spelling : List Char, number spelling = outcome (.ok (Number.ofSpelling? spelling)) :=
  ⟨parse_eq_outcome, fun _ => scan_eq (List.nil_append _).symm false, ofBody_eq, charConstant_eq, number_eq⟩

end Bytes

end QueryTemplate
