import QueryTemplate.Proofs.Action.Single
import QueryTemplate.Proofs.Action.Stop
import QueryTemplate.Proofs.Number.Numeral

/-!
# String literals

A string may be written in many ways between double quotes: each of its characters as it stands, by a letter or mark after
a backslash, or by the digits of its code point (`Spells`). A raw string is written as it stands, but for carriage returns.
However it is written (`StringLiteral`), the reader finds the string, and it is the whole query of the template that has
nothing else in it (`StringLiteral.verbatim`).
-/

namespace QueryTemplate

/-- The letters and marks that stand for a character after a backslash, each with its character. -/
def namedEscapes : List (Char × Char) :=
  [('n', '\n'), ('t', '\t'), ('r', '\r'), ('a', '\x07'), ('b', '\x08'), ('f', '\x0c'), ('v', '\x0b'), ('\\', '\\'),
    ('"', '"'), ('\'', '\'')]

/-- The letters after which a character is written by its hexadecimal digits, each with the number of digits. -/
def hexEscapes : List (Char × Nat) :=
  [('x', 2), ('u', 4), ('U', 8)]

/-- A text that stands for a character in a string in double quotes. -/
inductive Spells (c : Char) : List Char → Prop where
  | plain (hquote : c ≠ '"') (hslash : c ≠ '\\') (hline : c ≠ '\n') : Spells c [c]
  | named {mark : Char} (hmark : (mark, c) ∈ namedEscapes) : Spells c ['\\', mark]
  | hex {mark : Char} {ds : List Char} (hmark : (mark, ds.length) ∈ hexEscapes) (hds : Numeral 16 ds c.toNat) :
      Spells c ('\\' :: mark :: ds)
  | octal {ds : List Char} (hlength : ds.length = 3) (hds : Numeral 8 ds c.toNat) : Spells c ('\\' :: ds)

/-- A text that stands for a string: one in double quotes, whose characters are spelled one by one, or a raw string. -/
inductive StringLiteral : List Char → String → Prop where
  | quoted {s : String} {us : List (List Char)} (h : List.Forall₂ Spells s.toList us) :
      StringLiteral ('"' :: (us.flatten ++ ['"'])) s
  | raw {s : String} (h : '`' ∉ s.toList) :
      StringLiteral ('`' :: (s.toList ++ ['`'])) (String.ofList (s.toList.filter (· != '\r')))

/-! ## Characters by their digits -/

/-- Digits that write the code point of a character stand for the character. -/
theorem charOfDigits?_of_numeral {radix : Nat} {ds : List Char} {c : Char} (h : Numeral radix ds c.toNat) :
    charOfDigits? radix ds = some c := by
  have hvalid : c.toNat.isValidChar := c.valid
  rw [charOfDigits?, readDigits?_eq_some_iff.mpr h, Option.bind_eq_bind, Option.bind_some, if_pos hvalid,
    Char.ofNat_toNat]

namespace Reader

/-- What was read is replaced by what it stands for. -/
theorem mapOption_of_done {α β : Type} {p : Reader α} {f : α → Option β} {s rest : List Char} {a : α} {b : β}
    (h : p s = .done a rest) (hb : f a = some b) : mapOption p f s = .done b rest := by
  rw [mapOption, h]
  dsimp only
  rw [hb]

/-- As many hexadecimal digits as are asked for are read as the character that they write. -/
theorem hexChar_of_numeral {ds : List Char} {c : Char} (h : Numeral 16 ds c.toNat) (rest : List Char) :
    hexChar ds.length (ds ++ rest) = .done c rest := by
  have hdigits : ∀ d ∈ ds, isHexDigit d = true := by
    intro d hd
    obtain ⟨n, hn, -⟩ := h.isDigit hd
    rw [isHexDigit, digitValue?_of_isDigit hn]
    rfl
  exact mapOption_of_done (exactly_append hdigits rest) (charOfDigits?_of_numeral h)

/-! ## Escapes -/

/-- The escapes by letters and marks are tried first, then those by hexadecimal digits and then those by octal digits. -/
theorem escape_eq :
    escape = firstOf (namedEscapes.map (fun e => namedEscape e.1 e.2) ++
      (hexEscapes.map (fun e => hexEscape e.1 e.2) ++ [octalEscape])) := rfl

/-- A letter or mark of the list is read as its character. -/
theorem escape_of_named {mark c : Char} (h : (mark, c) ∈ namedEscapes) (rest : List Char) :
    escape (mark :: rest) = .done c rest := by
  simp only [namedEscapes, List.mem_cons, Prod.mk.injEq, List.not_mem_nil, or_false] at h
  rcases h with ⟨rfl, rfl⟩ | ⟨rfl, rfl⟩ | ⟨rfl, rfl⟩ | ⟨rfl, rfl⟩ | ⟨rfl, rfl⟩ | ⟨rfl, rfl⟩ | ⟨rfl, rfl⟩ | ⟨rfl, rfl⟩ |
    ⟨rfl, rfl⟩ | ⟨rfl, rfl⟩ <;> rfl

/-- The escapes by letters and marks miss other characters. -/
theorem miss_of_not_named {d : Char} (h : ∀ e ∈ namedEscapes, d ≠ e.1) (s : List Char) :
    ∀ p ∈ namedEscapes.map (fun e => namedEscape e.1 e.2), Misses p (d :: s) := by
  intro p hp
  obtain ⟨e, he, rfl⟩ := List.mem_map.mp hp
  exact Misses.andThen ⟨_, char_of_ne (h e he) s⟩ _

/-- The escapes by hexadecimal digits miss other characters than their letters. -/
theorem miss_of_not_hex {d : Char} (h : ∀ e ∈ hexEscapes, d ≠ e.1) (s : List Char) :
    ∀ p ∈ hexEscapes.map (fun e => hexEscape e.1 e.2), Misses p (d :: s) := by
  intro p hp
  obtain ⟨e, he, rfl⟩ := List.mem_map.mp hp
  exact Misses.andThen ⟨_, char_of_ne (h e he) s⟩ _

/-- After a letter for hexadecimal digits, which is none of the others, the digits are read. -/
theorem escape_of_hex {mark c : Char} {ds : List Char} (hmark : (mark, ds.length) ∈ hexEscapes)
    (hds : Numeral 16 ds c.toNat) (rest : List Char) : escape (mark :: (ds ++ rest)) = .done c rest := by
  have hread : hexEscape mark ds.length (mark :: (ds ++ rest)) = .done c rest := by
    have hchar : char mark (mark :: (ds ++ rest)) = .done mark (ds ++ rest) := if_pos (beq_self_eq_true mark)
    exact (andThen_of_done hchar).trans (hexChar_of_numeral hds rest)
  have hmiss : ∀ {letter : Char} {count : Nat}, mark ≠ letter →
      hexEscape letter count (mark :: (ds ++ rest)) = .miss (mark :: (ds ++ rest)) :=
    fun h => andThen_of_miss (char_of_ne h _)
  have hnamed : ∀ e ∈ namedEscapes, mark ≠ e.1 := by
    have hletters : ∀ m ∈ hexEscapes, ∀ e ∈ namedEscapes, m.1 ≠ e.1 := by decide
    exact hletters _ hmark
  rw [escape_eq, firstOf_append_of_miss (miss_of_not_named hnamed _) (by simp)]
  simp only [hexEscapes, List.mem_cons, Prod.mk.injEq, List.not_mem_nil, or_false] at hmark
  rcases hmark with ⟨rfl, hlength⟩ | ⟨rfl, hlength⟩ | ⟨rfl, hlength⟩ <;> rw [hlength] at hread
  · exact firstOf_cons_of_done hread
  · exact (firstOf_cons_of_miss (hmiss (by decide))).trans (firstOf_cons_of_done hread)
  · exact (firstOf_cons_of_miss (hmiss (by decide))).trans
      ((firstOf_cons_of_miss (hmiss (by decide))).trans (firstOf_cons_of_done hread))

/-- The digits below eight. -/
def octalDigits : List Char :=
  ['0', '1', '2', '3', '4', '5', '6', '7']

/-- A digit below eight is one of the octal digits. -/
theorem mem_octalDigits_of_isDigit {c : Char} {d : Nat} (h : IsDigit c d) (hd : d < 8) : c ∈ octalDigits := by
  interval_cases d <;> rcases h with h | h <;> cases h <;> decide

/-- Octal digits are read after all letters and marks are tried, of which none is a digit. -/
theorem escape_of_octal {c : Char} {ds : List Char} (hlength : ds.length = 3) (hds : Numeral 8 ds c.toNat)
    (rest : List Char) : escape (ds ++ rest) = .done c rest := by
  have hoctal : ∀ d ∈ ds, d ∈ octalDigits := by
    intro d hd
    obtain ⟨n, hn, hlt⟩ := hds.isDigit hd
    exact mem_octalDigits_of_isDigit hn hlt
  have hread : octalEscape (ds ++ rest) = .done c rest := by
    have hclass : octalDigits.all (fun d => '0' ≤ d && d ≤ '7') = true := by decide
    have hdigits := exactly_append (fun d hd => List.all_eq_true.mp hclass d (hoctal d hd)) rest
    rw [hlength] at hdigits
    exact mapOption_of_done hdigits (charOfDigits?_of_numeral hds)
  obtain ⟨d, ds, rfl⟩ := List.exists_cons_of_length_eq_add_one hlength
  obtain ⟨hnamed, hhex⟩ : (∀ e ∈ namedEscapes, d ≠ e.1) ∧ ∀ e ∈ hexEscapes, d ≠ e.1 := by
    have hd := hoctal d List.mem_cons_self
    simp only [octalDigits, List.mem_cons, List.not_mem_nil, or_false] at hd
    rcases hd with rfl | rfl | rfl | rfl | rfl | rfl | rfl | rfl <;> decide
  rw [List.cons_append] at hread ⊢
  rw [escape_eq, firstOf_append_of_miss (miss_of_not_named hnamed _) (by simp),
    firstOf_append_of_miss (miss_of_not_hex hhex _) (by simp), firstOf_singleton, hread]

/-! ## Strings -/

/-- However a character is spelled, it is read. -/
theorem stringChar_of_spells {c : Char} {u : List Char} (h : Spells c u) (rest : List Char) :
    stringChar (u ++ rest) = .done c rest := by
  cases h with
  | plain hquote hslash hline =>
    exact (if_neg hline).trans ((if_neg hquote).trans (if_neg hslash))
  | named hmark => exact escape_of_named hmark rest
  | hex hmark hds => exact escape_of_hex hmark hds rest
  | octal hlength hds => exact escape_of_octal hlength hds rest

/-- Each character of a string takes at least one of the text. -/
theorem length_lt_of_stringChar {s rest : List Char} {c : Char} (h : stringChar s = .done c rest) :
    rest.length < s.length := by
  cases s with
  | nil => cases h
  | cons d s =>
    rw [stringChar] at h
    split at h
    · cases h
    · split at h
      · cases h
      · split at h
        · exact Nat.lt_succ_of_le (stopsWithin_escape.done h).length_le
        · cases h
          exact Nat.lt_succ_self _

/-- The characters are read up to the quote after them. -/
theorem many_stringChar {s : List Char} {us : List (List Char)} (h : List.Forall₂ Spells s us) (rest : List Char) :
    many stringChar (us.flatten ++ '"' :: rest) = .done s ('"' :: rest) := by
  induction h with
  | nil => exact many_of_miss (rfl : _ = Reading.miss ('"' :: rest))
  | cons hfirst _ ih =>
    rw [List.flatten_cons, List.append_assoc,
      many_of_done (fun _ _ _ => length_lt_of_stringChar) (stringChar_of_spells hfirst _), andThen_of_done ih]
    rfl

/-- A string in double quotes is read as the characters that are spelled in it. -/
theorem quotedString_of_spells {s : String} {us : List (List Char)} (h : List.Forall₂ Spells s.toList us) :
    quotedString ('"' :: (us.flatten ++ ['"'])) = .done s [] := by
  show (many stringChar).andThen (fun cs => (char '"').andThen fun _ => succeed (String.ofList cs)) (us.flatten ++ ['"']) = _
  rw [andThen_of_done (many_stringChar h [])]
  show Reading.done (String.ofList s.toList) [] = _
  rw [String.ofList_toList]

/-- A raw string ends at the first backquote, of which there is none in it. -/
theorem rawString_of_not_mem {s : String} (h : '`' ∉ s.toList) :
    rawString ('`' :: (s.toList ++ ['`'])) = .done (String.ofList (s.toList.filter (· != '\r'))) [] := by
  have hinside : takeWhile (· != '`') (s.toList ++ ['`']) = .done s.toList ['`'] :=
    takeWhile_append _ (fun c hc => bne_iff_ne.mpr fun he => h (he ▸ hc)) (by simp)
  show (takeWhile (· != '`')).andThen
    (fun cs => (char '`').andThen fun _ => succeed (String.ofList (cs.filter (· != '\r')))) (s.toList ++ ['`']) = _
  rw [andThen_of_done hinside]
  rfl

/-- A string literal is an operand. -/
theorem operandOver_of_string {c : Char} (hc : BeginsLiteral c) {s : List Char} {text : String}
    (h : stringLiteral (c :: s) = .done text []) (group : Reader Pipeline) :
    operandOver group (c :: s) = .done (.string text) [] := by
  have before : ∀ other ∈ OperandForm.all.takeWhile (· != .string), (other.reader group).Misses (c :: s) := by
    intro other hother
    cases other with
    | bool b => exact misses_bool (hc.words s) group b
    | nil => exact (hc.words s "nil" (by decide)).andThen _
    | _ => exact absurd hother (by decide)
  exact operandOver_of_done .string (by decide) before (andThen_of_done h)

end Reader

namespace StringLiteral

open Reader

/-- A string literal is the body of an action with the string as its operand. -/
theorem ofBody {text : List Char} {s : String} (h : StringLiteral text s) :
    Action.ofBody text = .ok (.output ⟨[], false, [[.string s]]⟩) := by
  cases h with
  | quoted h =>
    have hc : BeginsLiteral '"' := ⟨by decide, by decide, by decide⟩
    have hread := operandOver_of_string hc (firstOf_cons_of_done (quotedString_of_spells h))
    exact Action.ofBody_of_operand (hc.beginsPipeline _) hread
  | @raw s h =>
    have hc : BeginsLiteral '`' := ⟨by decide, by decide, by decide⟩
    have hquoted : quotedString ('`' :: (s.toList ++ ['`'])) = .miss ('`' :: (s.toList ++ ['`'])) := rfl
    have hraw := (firstOf_cons_of_miss hquoted).trans ((firstOf_singleton _ _).trans (rawString_of_not_mem h))
    exact Action.ofBody_of_operand (hc.beginsPipeline _) (operandOver_of_string hc hraw)

/-- However a string is written as a literal, the source that is nothing but this literal between braces has one action, and
this has the string as its only operand. The template that is built from it is static, and its query is the string itself,
without arguments, whatever value it is rendered from and whatever the options say. -/
theorem verbatim {text : List Char} {s : String} (h : StringLiteral text s) (options : Options) :
    Node.parse (braced text) = .ok [.action ⟨[], false, [[.string s]]⟩] ∧
      ∃ t, Template.build (braced text) options = .ok t ∧ t.isStatic = true ∧
        ∀ (rendering : Options) (v : Value), t.compiled.render rendering v = .ok ⟨s, []⟩ := by
  have hparse := Node.parse_of_literal h.ofBody rfl
  exact ⟨hparse, ⟨.static ⟨s, []⟩, options⟩, Template.build_of_literal hparse rfl options, rfl, fun _ _ => rfl⟩

/-- Closing braces, a dash after a blank, a quote, and a character in each of the other ways. -/
theorem verbatim_in_each_way :
    StringLiteral "\"\x7d\x7d -\\\"\\t\\x4a\\u00e9\\U0001F600\\1012\"".toList "\x7d\x7d -\"\tJé😀A2" ∧
      Node.parse (braced "\"\x7d\x7d -\\\"\\t\\x4a\\u00e9\\U0001F600\\1012\"".toList) =
        .ok [.action ⟨[], false, [[.string "\x7d\x7d -\"\tJé😀A2"]]⟩] ∧
      ∃ t, Template.build (braced "\"\x7d\x7d -\\\"\\t\\x4a\\u00e9\\U0001F600\\1012\"".toList) .default = .ok t ∧
        t.isStatic = true ∧
        ∀ (rendering : Options) (v : Value), t.compiled.render rendering v = .ok ⟨"\x7d\x7d -\"\tJé😀A2", []⟩ :=
  have hnumeral : ∀ {radix n : Nat} {ds : List Char}, readDigits? radix ds = some n → Numeral radix ds n :=
    readDigits?_eq_some_iff.mp
  have hspelled : List.Forall₂ Spells "\x7d\x7d -\"\tJé😀A2".toList
      [['\x7d'], ['\x7d'], [' '], ['-'], ['\\', '"'], ['\\', 't'], ['\\', 'x', '4', 'a'], ['\\', 'u', '0', '0', 'e', '9'],
        ['\\', 'U', '0', '0', '0', '1', 'F', '6', '0', '0'], ['\\', '1', '0', '1'], ['2']] :=
    .cons (.plain (by decide) (by decide) (by decide)) <| .cons (.plain (by decide) (by decide) (by decide)) <|
      .cons (.plain (by decide) (by decide) (by decide)) <| .cons (.plain (by decide) (by decide) (by decide)) <|
      .cons (.named (by decide)) <| .cons (.named (by decide)) <| .cons (.hex (by decide) (hnumeral (by decide))) <|
      .cons (.hex (by decide) (hnumeral (by decide))) <| .cons (.hex (by decide) (hnumeral (by decide))) <|
      .cons (.octal (by decide) (hnumeral (by decide))) <|
      .cons (.plain (by decide) (by decide) (by decide)) .nil
  have h : StringLiteral "\"\x7d\x7d -\\\"\\t\\x4a\\u00e9\\U0001F600\\1012\"".toList "\x7d\x7d -\"\tJé😀A2" :=
    .quoted hspelled
  ⟨h, verbatim h .default⟩

end StringLiteral

end QueryTemplate
