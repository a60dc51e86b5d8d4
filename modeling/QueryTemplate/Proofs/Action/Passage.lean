import QueryTemplate.Action.Grammar
import QueryTemplate.Proofs.Source.Passage
import QueryTemplate.Proofs.Text.Reads

/-!
# What the grammar reads may stand inside an action

The readers of the grammar read texts over which the search for the end of an action passes, and which do not end with a
dash, so that no right trim marker is seen after them (`Enclosable`). Literals are where the two could disagree: the
search follows them character by character, and the grammar has a reader for each kind.
-/

namespace QueryTemplate

open Item (Passes)

/-- A text that may stand before the closing braces of an action: the search for them passes over it, and it does not end
with a dash. -/
structure Enclosable (u : List Char) : Prop where
  passes : Passes .outside .outside u
  noDash : u.getLast? ≠ some '-'

/-- A character that is no quote, no closing brace and no dash. -/
def isOrdinary (c : Char) : Bool :=
  Item.isPlain c && c != '-'

/-- A class of characters without the five that are not ordinary. -/
theorem isOrdinary_of_class {p : Char → Bool} (h : (['"', '\'', '`', '}', '-'].all fun c => !p c) = true) {c : Char}
    (hc : p c = true) : isOrdinary c = true := by
  simp only [List.all_cons, List.all_nil, Bool.and_true, Bool.and_eq_true, Bool.not_eq_true'] at h
  obtain ⟨hdouble, hsingle, hraw, hbrace, hdash⟩ := h
  simp only [isOrdinary, Item.isPlain, Bool.and_eq_true, bne_iff_ne]
  refine ⟨⟨⟨⟨?_, ?_⟩, ?_⟩, ?_⟩, ?_⟩ <;> rintro rfl <;> simp_all

namespace Enclosable

/-- What follows a text that is passed over may hold the last character of both. -/
theorem append_of_ne_nil {u v : List Char} (hu : Passes .outside .outside u) (hv : Enclosable v) (hne : v ≠ []) :
    Enclosable (u ++ v) := by
  refine ⟨hu.append hv.passes, ?_⟩
  rw [List.getLast?_append, List.getLast?_eq_some_getLast hne, Option.some_or, ← List.getLast?_eq_some_getLast hne]
  exact hv.noDash

/-- Nothing is enclosable, and so are enclosable texts after each other. -/
theorem closed : Reader.Closed Enclosable where
  nil := ⟨Passes.nil _, by simp⟩
  append := by
    intro u v hu hv
    cases v with
    | nil => rwa [List.append_nil]
    | cons c v => exact append_of_ne_nil hu.passes hv (List.cons_ne_nil c v)

/-- An ordinary character is enclosable. -/
theorem of_isOrdinary {c : Char} (h : isOrdinary c = true) : Enclosable [c] := by
  simp only [isOrdinary, Bool.and_eq_true, bne_iff_ne] at h
  exact ⟨Item.passes_plain h.1, fun he => h.2 (Option.some.inj he)⟩

/-- A text between quotes over whose inside the search passes. -/
theorem of_quoted {q : Char} (h : q = '"' ∨ q = '\'') {u : List Char} (hu : Passes (.quoted q) (.quoted q) u) :
    Enclosable (q :: (u ++ [q])) := by
  refine ⟨(Item.passes_opening_quote h).append (hu.append (Item.passes_closing_quote h)), ?_⟩
  rw [← List.cons_append, List.getLast?_concat]
  rcases h with rfl | rfl <;> decide

end Enclosable

namespace Reader

variable {α β : Type}

/-! ## Readers one after the other -/

/-- Nothing is enclosable. -/
theorem within_succeed (a : α) : Within Enclosable (succeed a) :=
  Enclosable.closed.succeed a

/-- Readers of enclosable texts may follow each other. -/
theorem Within.andThen {p : Reader α} {q : α → Reader β} (hp : Within Enclosable p) (hq : ∀ a, Within Enclosable (q a)) :
    Within Enclosable (p.andThen q) :=
  Enclosable.closed.andThen hp hq

/-- What may be absent is enclosable if it is there. -/
theorem Within.optional {p : Reader α} (hp : Within Enclosable p) : Within Enclosable (Reader.optional p) :=
  Enclosable.closed.optional hp

/-- The spelling changes nothing about the text that is read. -/
theorem Within.withSpelling {p : Reader α} (hp : Within Enclosable p) : Within Enclosable (Reader.withSpelling p) :=
  Reads.withSpelling hp

/-- What is repeated is enclosable if each repetition is. -/
theorem Within.many {p : Reader α} (hp : Within Enclosable p) : Within Enclosable (Reader.many p) :=
  Enclosable.closed.many hp

/-! ## Characters and words -/

/-- What one of some readers reads is of the kind that all of them read. -/
theorem within_firstOf {P : List Char → Prop} {ps : List (Reader α)} (h : ∀ p ∈ ps, Within P p) :
    Within P (firstOf ps) :=
  reads_firstOf h

/-- A character of a class is enclosable if the five special ones are not in the class. -/
theorem within_satisfy {p : Char → Bool} (h : (['"', '\'', '`', '}', '-'].all fun c => !p c) = true) :
    Within Enclosable (satisfy p) :=
  (reads_satisfy p).mono fun _ _ hu => hu.1 ▸ Enclosable.of_isOrdinary (isOrdinary_of_class h hu.2)

/-- A given character is enclosable if it is ordinary. -/
theorem within_char {c : Char} (h : isOrdinary c = true) : Within Enclosable (char c) :=
  (reads_char c).mono fun _ _ hu => hu.2 ▸ Enclosable.of_isOrdinary h

/-- So are the characters of such a class, as many as there are. -/
theorem within_takeWhile {p : Char → Bool} (h : (['"', '\'', '`', '}', '-'].all fun c => !p c) = true) :
    Within Enclosable (takeWhile p) :=
  Enclosable.closed.takeWhile fun _ hc => Enclosable.of_isOrdinary (isOrdinary_of_class h hc)

/-- A given text is enclosable if its characters are ordinary. -/
theorem within_text {cs : List Char} (h : cs.all isOrdinary = true) : Within Enclosable (text cs) := by
  refine (reads_text cs).mono ?_
  rintro _ u rfl
  induction u with
  | nil => exact Enclosable.closed.nil
  | cons c u ih =>
    rw [List.all_cons, Bool.and_eq_true] at h
    exact Enclosable.closed.append (Enclosable.of_isOrdinary h.1) (ih h.2)

/-- Looking at a character reads nothing. -/
theorem within_notNext (p : Char → Bool) : Within Enclosable (notNext p) :=
  (reads_notNext p).mono fun _ _ hu => hu ▸ Enclosable.closed.nil

/-- Blanks are ordinary. -/
theorem within_blanks : Within Enclosable blanks :=
  (within_takeWhile (by decide)).andThen fun _ => within_succeed ()

/-- So are blanks of which there is at least one. -/
theorem within_someBlanks : Within Enclosable someBlanks :=
  (within_satisfy (by decide)).andThen fun _ => within_blanks

/-- The words of the grammar are made of ordinary characters. -/
theorem within_keyword {word : String} (h : word.toList.all isOrdinary = true) : Within Enclosable (keyword word) :=
  (within_text h).andThen fun _ => within_notNext isNameChar

/-- What a word stands for does not matter. -/
theorem within_constant {word : String} (h : word.toList.all isOrdinary = true) (a : α) :
    Within Enclosable (constant word a) :=
  (within_keyword h).andThen fun _ => within_succeed a

/-- The characters of names are ordinary. -/
theorem within_nameChars : Within Enclosable (takeWhile isNameChar) :=
  within_takeWhile (by decide)

/-- Names are enclosable. -/
theorem within_name : Within Enclosable name :=
  (within_satisfy (by decide)).andThen fun _ => within_nameChars.andThen fun _ => within_succeed _

/-- The dollar sign is ordinary, too. -/
theorem within_variableName : Within Enclosable variableName :=
  (within_char (by decide)).andThen fun _ => within_nameChars.andThen fun _ => within_succeed _

/-- The point before a name is ordinary. -/
theorem within_step : Within Enclosable step :=
  (within_char (by decide)).andThen fun _ => within_name

/-- Paths are enclosable. -/
theorem within_field : Within Enclosable field :=
  within_step.andThen fun _ => within_step.many.andThen fun _ => within_succeed _

/-! ## Strings and character constants -/

/-- A character that stands for itself between quotes of either kind. -/
def IsVerbatim (c : Char) : Prop :=
  c ≠ '\\' ∧ c ≠ '"' ∧ c ≠ '\'' ∧ c ≠ '\n'

/-- A class of characters without the four that do not stand for themselves between quotes. -/
theorem isVerbatim_of_class {p : Char → Bool} (h : (['\\', '"', '\'', '\n'].all fun c => !p c) = true) {c : Char}
    (hc : p c = true) : IsVerbatim c := by
  simp only [List.all_cons, List.all_nil, Bool.and_true, Bool.and_eq_true, Bool.not_eq_true'] at h
  obtain ⟨hslash, hdouble, hsingle, hline⟩ := h
  refine ⟨?_, ?_, ?_, ?_⟩ <;> rintro rfl <;> simp_all

/-- What an escape may be after its backslash: any character, and then characters that stand for themselves. -/
def IsEscape (u : List Char) : Prop :=
  ∃ c v, u = c :: v ∧ ∀ d ∈ v, IsVerbatim d

/-- A letter or mark is an escape without further characters. -/
theorem reads_namedEscape (letter c : Char) : (namedEscape letter c).Reads fun _ u => IsEscape u := by
  refine ((reads_char letter).andThen fun _ => reads_succeed c).mono ?_
  rintro _ _ ⟨_, _, _, rfl, ⟨_, rfl⟩, ⟨_, rfl⟩⟩
  exact ⟨letter, [], rfl, by simp⟩

/-- A character by its digits, of a class of characters that stand for themselves. -/
theorem reads_charOfDigits {p : Char → Bool} (h : (['\\', '"', '\'', '\n'].all fun c => !p c) = true) (count radix : Nat) :
    (Reader.mapOption (exactly p count) (charOfDigits? radix)).Reads fun _ u =>
      u.length = count ∧ ∀ c ∈ u, IsVerbatim c := by
  refine ((reads_exactly p count).mapOption _).mono ?_
  rintro _ _ ⟨_, _, rfl, hcount, hdigits⟩
  exact ⟨hcount, fun c hc => isVerbatim_of_class h (hdigits c hc)⟩

/-- A letter and the hexadecimal digits of a character. -/
theorem reads_hexEscape (letter : Char) (count : Nat) : (hexEscape letter count).Reads fun _ u => IsEscape u := by
  have hdigits : (hexChar count).Reads _ := reads_charOfDigits (p := isHexDigit) (by decide) count 16
  refine ((reads_char letter).andThen fun _ => hdigits).mono ?_
  rintro _ _ ⟨_, _, v, rfl, ⟨_, rfl⟩, _, hv⟩
  exact ⟨letter, v, rfl, hv⟩

/-- Three octal digits of a character. -/
theorem reads_octalEscape : octalEscape.Reads fun _ u => IsEscape u := by
  refine (reads_charOfDigits (p := fun c => '0' ≤ c && c ≤ '7') (by decide) 3 8).mono ?_
  rintro _ u ⟨hcount, hu⟩
  cases u with
  | nil => cases hcount
  | cons c v => exact ⟨c, v, rfl, fun d hd => hu d (List.mem_cons_of_mem c hd)⟩

/-- Whatever form an escape has, its first character is followed by ordinary ones only. -/
theorem reads_escape : escape.Reads fun _ u => IsEscape u := by
  refine reads_firstOf (List.forall_mem_map.mpr fun form _ => ?_)
  cases form with
  | named letter c => exact reads_namedEscape letter c
  | hex letter count => exact reads_hexEscape letter count
  | octal => exact reads_octalEscape

/-- Within quotes an escape is passed over with its backslash. -/
theorem IsEscape.passes {u : List Char} (h : IsEscape u) {q : Char} (hq : q = '"' ∨ q = '\'') :
    Passes (.quoted q) (.quoted q) ('\\' :: u) := by
  obtain ⟨c, v, rfl, hv⟩ := h
  refine (Item.passes_escape q c).append (Item.passes_of_forall fun d hd => ?_)
  obtain ⟨hslash, hdouble, hsingle, hline⟩ := hv d hd
  exact Item.passes_within_quotes hslash (by rcases hq with rfl | rfl <;> assumption) hline

/-- Within a string the search passes over each of its characters. -/
theorem within_stringChar : Within (Passes (.quoted '"') (.quoted '"')) stringChar := by
  intro s a rest h
  cases s with
  | nil => cases h
  | cons c s =>
    rw [stringChar] at h
    split at h
    · cases h
    · rename_i hline
      split at h
      · cases h
      · rename_i hquote
        split at h
        · rename_i hslash
          obtain ⟨u, rfl, hu⟩ := reads_escape s a rest h
          exact ⟨c :: u, rfl, hslash ▸ hu.passes (Or.inl rfl)⟩
        · rename_i hslash
          cases h
          exact ⟨[_], rfl, Item.passes_within_quotes hslash hquote hline⟩

/-- A string in double quotes is passed over as it was read. -/
theorem within_quotedString : Within Enclosable quotedString := by
  have hclosed : Closed (Passes (.quoted '"') (.quoted '"')) := ⟨Passes.nil _, Passes.append⟩
  refine ((reads_char '"').andThen fun _ => Reads.andThen (hclosed.many within_stringChar) fun cs =>
    (reads_char '"').andThen fun _ => reads_succeed (String.ofList cs)).mono ?_
  rintro _ _ ⟨_, _, _, rfl, ⟨_, rfl⟩, _, u, _, rfl, hu, _, _, _, rfl, ⟨_, rfl⟩, ⟨_, rfl⟩⟩
  exact Enclosable.of_quoted (Or.inl rfl) hu

/-- A raw string is passed over up to the first backquote, and read up to there. -/
theorem within_rawString : Within Enclosable rawString := by
  refine ((reads_char '`').andThen fun _ => (reads_takeWhile (· != '`')).andThen fun cs =>
    (reads_char '`').andThen fun _ => reads_succeed (String.ofList (cs.filter (· != '\r')))).mono ?_
  rintro _ _ ⟨_, _, _, rfl, ⟨_, rfl⟩, _, u, _, rfl, ⟨rfl, hu⟩, _, _, _, rfl, ⟨_, rfl⟩, ⟨_, rfl⟩⟩
  refine ⟨Item.passes_raw fun c hc => ?_, ?_⟩
  · simpa using hu c hc
  · rw [List.append_nil, List.singleton_append, ← List.cons_append, List.getLast?_concat]
    decide

/-- Within single quotes the search passes over the character, or over the escape. -/
theorem within_constantChar : Within (Passes (.quoted '\'') (.quoted '\'')) constantChar := by
  refine reads_firstOf fun p hp => ?_
  simp only [List.mem_cons, List.not_mem_nil, or_false] at hp
  rcases hp with rfl | rfl
  · refine ((reads_char '\\').andThen fun _ => reads_escape).mono ?_
    rintro _ _ ⟨_, _, u, rfl, ⟨_, rfl⟩, hu⟩
    exact hu.passes (Or.inr rfl)
  · refine (reads_satisfy _).mono ?_
    rintro c _ ⟨rfl, hc⟩
    simp only [Bool.and_eq_true, bne_iff_ne] at hc
    exact Item.passes_within_quotes hc.1.1 hc.1.2 hc.2

/-- A character constant is passed over as it was read. -/
theorem within_charConstant : Within Enclosable charConstant := by
  refine ((reads_char '\'').andThen fun _ => Reads.andThen within_constantChar fun c =>
    (reads_char '\'').andThen fun _ => reads_succeed c).mono ?_
  rintro _ _ ⟨_, _, _, rfl, ⟨_, rfl⟩, _, u, _, rfl, hu, _, _, _, rfl, ⟨_, rfl⟩, ⟨_, rfl⟩⟩
  exact Enclosable.of_quoted (Or.inr rfl) hu

/-! ## Numbers -/

/-- An enclosable text that is not empty. -/
def Solid (u : List Char) : Prop :=
  Enclosable u ∧ u ≠ []

/-- A reader that reads something, and another one after it. -/
theorem Reads.solid_andThen {α β : Type} {p : Reader α} {q : α → Reader β} (hp : p.Reads fun _ u => Solid u)
    (hq : ∀ a, Within Enclosable (q a)) : (p.andThen q).Reads fun _ u => Solid u := by
  refine (hp.andThen hq).mono ?_
  rintro _ _ ⟨_, u, v, rfl, ⟨hu, hne⟩, hv⟩
  exact ⟨Enclosable.closed.append hu hv, List.append_ne_nil_of_left_ne_nil hne v⟩

/-- A character of such a class is not nothing. -/
theorem solid_satisfy {p : Char → Bool} (h : (['"', '\'', '`', '}', '-'].all fun c => !p c) = true) :
    (satisfy p).Reads fun _ u => Solid u := by
  refine (reads_satisfy p).mono ?_
  rintro c _ ⟨rfl, hc⟩
  exact ⟨Enclosable.of_isOrdinary (isOrdinary_of_class h hc), List.cons_ne_nil c []⟩

/-- A sign may be a dash, but something comes after it. -/
theorem within_sign_andThen {α : Type} {q : Option Char → Reader α} (hq : ∀ s, (q s).Reads fun _ u => Solid u) :
    Within Enclosable (sign.andThen q) := by
  refine ((reads_satisfy _).optional.andThen hq).mono ?_
  rintro _ _ ⟨_, u, v, rfl, ⟨_, rfl⟩ | ⟨c, _, rfl, hc⟩, hv, hne⟩
  · exact hv
  · refine Enclosable.append_of_ne_nil (Item.passes_plain ?_) hv hne
    simp only [Bool.or_eq_true, beq_iff_eq] at hc
    rcases hc with rfl | rfl <;> decide

/-- There is at least one digit. -/
theorem solid_digits : digits.Reads fun _ u => Solid u :=
  (solid_satisfy (by decide)).solid_andThen fun _ =>
    (within_takeWhile (by decide)).andThen fun _ => within_succeed _

/-- Digits are enclosable. -/
theorem within_digits : Within Enclosable digits :=
  solid_digits.mono fun _ _ h => h.1

/-- There is at least one digit, and underscores are ordinary. -/
theorem solid_separatedDigits : separatedDigits.Reads fun _ u => Solid u :=
  (solid_satisfy (by decide)).solid_andThen fun _ =>
    (within_takeWhile (by decide)).andThen fun _ => within_succeed _

/-- There is at least the prefix. -/
theorem solid_prefixedInteger : prefixedInteger.Reads fun _ u => Solid u :=
  Reads.solid_andThen (solid_satisfy (by decide)) fun _ =>
    (within_satisfy (by decide)).andThen fun _ =>
      (within_takeWhile (by decide)).andThen fun _ => within_succeed _

/-- There are digits before the point. -/
theorem solid_wholeMantissa : wholeMantissa.Reads fun _ u => Solid u := by
  have hfraction : Within Enclosable ((char '.').andThen fun point =>
      (takeWhile Char.isDigit).andThen fun more => succeed (point :: more)) :=
    (within_char (by decide)).andThen fun _ => (within_takeWhile (by decide)).andThen fun _ => within_succeed _
  exact solid_separatedDigits.solid_andThen fun _ => hfraction.optional.andThen fun _ => within_succeed _

/-- There are digits behind the point. -/
theorem solid_fractionMantissa : fractionMantissa.Reads fun _ u => Solid u :=
  Reads.solid_andThen (solid_satisfy (by decide)) fun _ =>
    within_digits.andThen fun _ => within_succeed _

/-- The sign of an exponent may be a dash, but digits come after it. -/
theorem within_exponentPart : Within Enclosable exponentPart :=
  (within_satisfy (by decide)).andThen fun _ =>
    within_sign_andThen fun _ => solid_digits.solid_andThen fun _ => within_succeed _

/-- A decimal number has a mantissa. -/
theorem solid_decimal : decimal.Reads fun _ u => Solid u := by
  refine Reads.solid_andThen (reads_firstOf fun p hp => ?_) fun _ =>
    within_exponentPart.optional.andThen fun _ => within_succeed _
  simp only [List.mem_cons, List.not_mem_nil, or_false] at hp
  rcases hp with rfl | rfl
  · exact solid_wholeMantissa
  · exact solid_fractionMantissa

/-- The sign of a number may be a dash, but digits come after it. -/
theorem within_numberSpelling : Within Enclosable numberSpelling := by
  refine within_sign_andThen fun _ => Reads.solid_andThen (reads_firstOf fun p hp => ?_) fun _ =>
    (within_notNext isNameChar).andThen fun _ => within_succeed _
  simp only [List.mem_cons, List.not_mem_nil, or_false] at hp
  rcases hp with rfl | rfl
  · exact solid_prefixedInteger
  · exact solid_decimal

/-- A number is enclosable whatever its value. -/
theorem within_number : Within Enclosable number := by
  intro s a rest h
  rw [number] at h
  split at h
  · rename_i spelling mid hspelling
    split at h
    · cases h
      exact within_numberSpelling s spelling _ hspelling
    · cases h
  · cases h
  · cases h

/-! ## Pipelines -/

/-- A comma and the name of a variable are enclosable. -/
theorem within_secondTarget : Within Enclosable secondTarget :=
  within_blanks.andThen fun _ => (within_char (by decide)).andThen fun _ => within_blanks.andThen fun _ =>
    within_variableName

/-- So is either sign after the variables. -/
theorem within_targetSign : Within Enclosable targetSign := by
  refine within_firstOf fun p hp => ?_
  simp only [List.mem_cons, List.not_mem_nil, or_false] at hp
  rcases hp with rfl | rfl
  · exact (within_text (by decide)).andThen fun _ => within_succeed _
  · exact (within_char (by decide)).andThen fun _ => within_succeed _

/-- The variables of a pipeline are enclosable. -/
theorem within_targets : Within Enclosable targets :=
  within_variableName.andThen fun _ => within_secondTarget.optional.andThen fun _ => within_blanks.andThen fun _ =>
    within_targetSign.andThen fun _ => within_blanks.andThen fun _ => within_succeed _

/-- A string of either kind is enclosable. -/
theorem within_stringLiteral : Within Enclosable stringLiteral := by
  refine within_firstOf fun p hp => ?_
  simp only [List.mem_cons, List.not_mem_nil, or_false] at hp
  rcases hp with rfl | rfl
  · exact within_quotedString
  · exact within_rawString

section

variable {group : Reader Pipeline} (hgroup : Within Enclosable group)
include hgroup

/-- Each form of an operand may stand inside an action. -/
theorem within_operandForm (form : OperandForm) : Within Enclosable (form.reader group) := by
  cases form with
  | bool b => cases b <;> exact within_constant (by decide) _
  | nil => exact within_constant (by decide) _
  | string => exact within_stringLiteral.andThen fun _ => within_succeed _
  | character => exact within_charConstant.withSpelling.andThen fun _ => within_succeed _
  | number => exact within_number.andThen fun _ => within_succeed _
  | field => exact within_field.andThen fun _ => within_succeed _
  | dot => exact (within_char (by decide)).andThen fun _ => within_succeed _
  | variablePath => exact within_variableName.andThen fun _ => within_step.many.andThen fun _ => within_succeed _
  | group =>
    exact (within_char (by decide)).andThen fun _ => within_blanks.andThen fun _ => hgroup.andThen fun _ =>
      within_blanks.andThen fun _ => (within_char (by decide)).andThen fun _ => within_succeed _
  | function => exact within_name.andThen fun _ => within_succeed _

/-- Whatever form an operand has, it is enclosable. -/
theorem within_operandOver : Within Enclosable (operandOver group) :=
  within_firstOf (List.forall_mem_map.mpr fun form _ => within_operandForm hgroup form)

/-- Operands and the blanks between them are enclosable. -/
theorem within_commandOver : Within Enclosable (commandOver group) := by
  have hmore : Within Enclosable (furtherOperandOver group) :=
    within_someBlanks.andThen fun _ => within_operandOver hgroup
  exact (within_operandOver hgroup).andThen fun _ => hmore.many.andThen fun _ => within_succeed _

/-- Commands and the bars between them are enclosable. -/
theorem within_pipelineOver : Within Enclosable (pipelineOver group) := by
  have hmore : Within Enclosable (furtherCommandOver group) :=
    within_blanks.andThen fun _ => (within_char (by decide)).andThen fun _ => within_blanks.andThen fun _ =>
      within_commandOver hgroup
  exact within_targets.optional.andThen fun _ => (within_commandOver hgroup).andThen fun _ =>
    hmore.many.andThen fun _ => within_succeed _

end

/-- By induction on the depth: what stands in the parentheses is enclosable, so the pipeline around it is. -/
theorem within_pipelineWithin (depth : Nat) : Within Enclosable (pipelineWithin depth) := by
  induction depth with
  | zero => exact within_pipelineOver fun _ _ _ h => by cases h
  | succ depth ih => exact within_pipelineOver ih

/-- Pipelines are enclosable. -/
theorem within_pipeline : Within Enclosable pipeline :=
  fun s a rest h => within_pipelineWithin s.length s a rest h

/-! ## Actions -/

/-- The beginning of a block is a word and a pipeline. -/
theorem within_opening (kind : BlockKind) : Within Enclosable (opening kind) := by
  have hword : Within Enclosable (keyword kind.keyword) := within_keyword (by cases kind <;> decide)
  exact hword.andThen fun _ => within_blanks.andThen fun _ => within_pipeline.andThen fun _ => within_succeed _

/-- An `else` is a word, and perhaps the beginning of a block. -/
theorem within_otherwise : Within Enclosable otherwise := by
  have hchained : Within Enclosable chainedOpening := by
    refine within_someBlanks.andThen fun _ => within_firstOf fun p hp => ?_
    simp only [List.mem_cons, List.not_mem_nil, or_false] at hp
    rcases hp with rfl | rfl
    · exact within_opening .cond
    · exact within_opening .focus
  exact (within_keyword (by decide)).andThen fun _ => hchained.optional.andThen fun _ => within_succeed _

/-- An invocation is a word, a string, and perhaps a pipeline. -/
theorem within_invocation : Within Enclosable invocation := by
  have hargument : Within Enclosable argument :=
    within_someBlanks.andThen fun _ => within_pipeline
  exact (within_keyword (by decide)).andThen fun _ => within_blanks.andThen fun _ =>
    within_stringLiteral.andThen fun _ => hargument.optional.andThen fun _ => within_succeed _

/-- A definition takes whatever follows its word. -/
theorem reads_definition (word : String) : (definition word).Reads fun a _ => a = .definition word := by
  have hkeyword := (reads_text word.toList).andThen fun _ => reads_notNext isNameChar
  have hrest := fun _ : Unit => (reads_takeWhile fun _ => true).andThen fun _ => reads_succeed (Action.definition word)
  refine (hkeyword.andThen hrest).mono ?_
  rintro _ _ ⟨_, _, _, rfl, _, _, _, _, rfl, _, rfl, _⟩
  rfl

/-- An action is enclosable unless it is a definition. -/
theorem reads_action : action.Reads fun a u => (∃ word, a = .definition word) ∨ Enclosable u := by
  refine reads_firstOf (List.forall_mem_map.mpr fun form _ => ?_)
  cases form with
  | opening kind => exact ((within_opening kind).andThen fun _ => within_succeed _).mono fun _ _ => Or.inr
  | otherwise => exact within_otherwise.mono fun _ _ => Or.inr
  | ending => exact Reads.mono (within_constant (by decide) _) fun _ _ => Or.inr
  | breakLoop => exact Reads.mono (within_constant (by decide) _) fun _ _ => Or.inr
  | continueLoop => exact Reads.mono (within_constant (by decide) _) fun _ _ => Or.inr
  | invocation => exact within_invocation.mono fun _ _ => Or.inr
  | definition word => exact (reads_definition word).mono fun _ _ h => Or.inl ⟨word, h⟩
  | output => exact (within_pipeline.andThen fun _ => within_succeed _).mono fun _ _ => Or.inr

end Reader

/-- The body of an action that is no definition is enclosable. -/
theorem Enclosable.of_ofBody {b : List Char} {a : Action} (h : Action.ofBody b = .ok a)
    (hdefinition : ∀ word, a ≠ .definition word) : Enclosable b := by
  have hspaced : Reader.spacedAction.Reads fun a u => (∃ word, a = .definition word) ∨ Enclosable u := by
    refine (Reader.Reads.andThen Reader.within_blanks fun _ => Reader.reads_action.andThen fun a =>
      Reader.Reads.andThen Reader.within_blanks fun _ => Reader.reads_succeed a).mono ?_
    rintro _ _ ⟨_, u, _, rfl, hu, _, v, _, rfl, hv, _, w, _, rfl, hw, rfl, rfl⟩
    rcases hv with hword | hv
    · exact Or.inl hword
    · exact Or.inr (closed.append hu (closed.append hv (closed.append hw closed.nil)))
  rw [Action.ofBody] at h
  split at h
  · rename_i hread
    cases h
    obtain ⟨u, rfl, hu⟩ := hspaced b _ [] hread
    rcases hu with ⟨word, rfl⟩ | hu
    · exact absurd rfl (hdefinition word)
    · rwa [List.append_nil]
  · cases h
  · cases h
  · cases h

end QueryTemplate
