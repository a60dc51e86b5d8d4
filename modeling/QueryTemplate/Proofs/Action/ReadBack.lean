import QueryTemplate.Proofs.Action.IntegerLiteral
import QueryTemplate.Proofs.Action.Settled

/-!
# Operands are read back

The text of an operand that the grammar has read, by itself, is an action with this operand and nothing else
(`Reader.ReadsBack.ofBody`). What was read is settled, so its reader reads it again (`Reader.Settles.alone`). The readers that
are tried before miss: the first characters decide between the kinds of operands, except that words look like names and a point may
begin a number, a field or nothing.
-/

namespace QueryTemplate

/-- A form of operands that stand for themselves. -/
def OperandForm.isLiteral : OperandForm → Bool
  | .bool _ | .nil | .string | .character | .number => true
  | .field | .dot | .variablePath | .group | .function => false

namespace Reader

/-! ## Words and names -/

/-- A name is not taken for a word, even if it begins with one. -/
theorem keyword_of_ne {word : String} {u : List Char} (hu : ∀ c ∈ u, isNameChar c = true) (hne : u ≠ word.toList) :
    (keyword word).Misses u := by
  by_cases hprefix : word.toList <+: u
  · -- the name goes on where the word ends
    obtain ⟨rest, rfl⟩ := hprefix
    cases rest with
    | nil => exact absurd (List.append_nil _) hne
    | cons c rest =>
      have hc : isNameChar c = true := hu c (List.mem_append_right _ List.mem_cons_self)
      exact ⟨c :: rest, (andThen_of_done (text_append _ _)).trans (if_pos hc)⟩
  · exact (misses_text_iff.mpr hprefix).andThen _

/-- A name begins with none of the characters that begin something else. -/
theorem ne_of_isNameStart {c d : Char} (hc : isNameStart c = true) (hd : isNameStart d = false) : c ≠ d := by
  rintro rfl
  rw [hc] at hd
  cases hd

/-- A name does not begin with a digit. -/
theorem isDigit_of_isNameStart {c : Char} (hc : isNameStart c = true) : c.isDigit = false := by
  rw [Bool.eq_false_iff]
  intro hdigit
  obtain ⟨d, hd, hlt⟩ := exists_isDigit_of_decimal hdigit
  -- the names are those of many scripts, but there are only ten digits
  interval_cases d <;> rcases hd with hd | hd <;> cases hd <;> exact absurd hc (by decide)

/-- A name that is no word of an action begins a pipeline. -/
theorem beginsPipeline_of_isName {u : List Char} (hu : IsName u) (hwords : ∀ word ∈ actionWords, u ≠ word.toList) :
    BeginsPipeline u := by
  have hkeyword : ∀ word ∈ actionWords, (keyword word).Misses u :=
    fun word hword => keyword_of_ne hu.isNameChar (hwords word hword)
  obtain ⟨first, more, rfl, hfirst, -⟩ := hu
  have hblank : isBlank first = false := by
    simp only [isBlank, Bool.or_eq_false_iff, beq_eq_false_iff_ne]
    exact ⟨⟨⟨ne_of_isNameStart hfirst (by decide), ne_of_isNameStart hfirst (by decide)⟩,
      ne_of_isNameStart hfirst (by decide)⟩, ne_of_isNameStart hfirst (by decide)⟩
  exact ⟨hkeyword, blanks_of_not_isBlank hblank more, optional_targets_of_ne (ne_of_isNameStart hfirst (by decide)) more⟩

/-! ## Where no number stands -/

/-- Digits behind a point begin with the point. -/
theorem fractionMantissa_misses {c : Char} {s : List Char} (hpoint : c = '.' → s.head?.any Char.isDigit = false) :
    fractionMantissa.Misses (c :: s) := by
  by_cases hc : c = '.'
  · subst hc
    have hdigits : (satisfy Char.isDigit).Misses s := by
      cases s with
      | nil => exact ⟨[], rfl⟩
      | cons d s =>
        have hd : d.isDigit = false := hpoint rfl
        exact ⟨d :: s, if_neg (Bool.eq_false_iff.mp hd)⟩
    have hmore : (digits.andThen fun more => succeed ('.' :: more)).Misses s := Misses.andThen (hdigits.andThen _) _
    exact hmore
  · exact Misses.andThen ⟨_, char_of_ne hc s⟩ _

/-- A number begins with a sign, a digit or a point before a digit. -/
theorem number_misses {c : Char} {s : List Char} (hplus : c ≠ '+') (hminus : c ≠ '-') (hdigit : c.isDigit = false)
    (hpoint : c = '.' → s.head?.any Char.isDigit = false) : number.Misses (c :: s) := by
  have hsign : sign (c :: s) = .done none (c :: s) := by
    have hmiss : satisfy (fun c => c == '+' || c == '-') (c :: s) = .miss (c :: s) :=
      if_neg (by simp [hplus, hminus])
    rw [sign, optional, hmiss]
  have hprefixed : prefixedInteger.Misses (c :: s) := by
    have hzero : c ≠ '0' := by rintro rfl; cases hdigit
    exact Misses.andThen ⟨_, char_of_ne hzero s⟩ _
  have hwhole : wholeMantissa.Misses (c :: s) := by
    have hfirst : (satisfy Char.isDigit).Misses (c :: s) := ⟨c :: s, if_neg (Bool.eq_false_iff.mp hdigit)⟩
    exact (hfirst.andThen _).andThen _
  have hmantissa : (firstOf [wholeMantissa, fractionMantissa]).Misses (c :: s) := by
    rw [misses_firstOf_iff, List.forall_mem_cons, List.forall_mem_singleton]
    exact ⟨hwhole, fractionMantissa_misses hpoint⟩
  have hmagnitude : (firstOf [prefixedInteger, decimal]).Misses (c :: s) := by
    rw [misses_firstOf_iff, List.forall_mem_cons, List.forall_mem_singleton]
    exact ⟨hprefixed, hmantissa.andThen _⟩
  obtain ⟨place, hmiss⟩ := hmagnitude
  have hspelling : numberSpelling (c :: s) = .miss place := (andThen_of_done hsign).trans (andThen_of_miss hmiss)
  exact ⟨place, by rw [number, hspelling]⟩

/-- What is read as a number begins like one. -/
theorem beginsNumber_of_number {s rest : List Char} {x : List Char × Number} (h : number s = .done x rest) :
    ∃ c t, s = c :: t ∧ BeginsNumber c := by
  cases s with
  | nil =>
    have hmiss : number [] = .miss [] := rfl
    rw [hmiss] at h
    cases h
  | cons c t =>
    refine ⟨c, t, rfl, ?_⟩
    by_cases hdigit : c.isDigit = true
    · exact .of_isDigit hdigit
    by_cases hmark : c = '+' ∨ c = '-' ∨ c = '.'
    · rcases hmark with rfl | rfl | rfl <;>
        exact ⟨⟨by decide, by decide, by decide⟩, by decide, by decide, by decide, by decide⟩
    · push Not at hmark
      obtain ⟨hplus, hminus, hpoint⟩ := hmark
      obtain ⟨place, hmiss⟩ :=
        number_misses (s := t) hplus hminus (Bool.eq_false_iff.mpr hdigit) fun hc => absurd hc hpoint
      rw [hmiss] at h
      cases h

/-! ## Where no literal stands -/

/-- A text that begins with no literal. -/
structure BeginsReference (s : List Char) : Prop where
  words : ∀ word ∈ operandWords, (keyword word).Misses s
  string : stringLiteral.Misses s
  character : charConstant.Misses s
  number : number.Misses s

/-- Quotes are needed for strings and characters, and numbers are none of the others. -/
theorem BeginsReference.of_cons {c : Char} {s : List Char} (hwords : ∀ word ∈ operandWords, (keyword word).Misses (c :: s))
    (hdouble : c ≠ '"') (hraw : c ≠ '`') (hsingle : c ≠ '\'') (hnumber : Reader.number.Misses (c :: s)) :
    BeginsReference (c :: s) where
  words := hwords
  string := stringLiteral_misses hdouble hraw s
  character := charConstant_misses hsingle s
  number := hnumber

/-- Where no literal begins the forms of literals are tried in vain. -/
theorem BeginsReference.misses {s : List Char} (hs : BeginsReference s) (group : Reader Pipeline) {form : OperandForm}
    (hform : form.isLiteral = true) : (form.reader group).Misses s := by
  cases form with
  | bool b => exact misses_bool hs.words group b
  | nil => exact (hs.words "nil" (by decide)).andThen _
  | string => exact hs.string.andThen _
  | character => exact hs.character.withSpelling.andThen _
  | number => exact hs.number.andThen _
  | _ => cases hform

/-- A point before a name is tried as a number, which has a digit there, and then as a path. -/
theorem operandOver_of_field {v more rest : List Char} {path : List String} (hv : IsName v)
    (h : field ('.' :: (v ++ more)) = .done path rest) (group : Reader Pipeline) :
    operandOver group ('.' :: (v ++ more)) = .done (.field path) rest := by
  have hwords : ∀ word ∈ operandWords, (keyword word).Misses ('.' :: (v ++ more)) :=
    fun _ hword => keyword_of_not_isAlpha (List.mem_append_right _ hword) (by decide) _
  have hnumber : number.Misses ('.' :: (v ++ more)) := by
    refine number_misses (by decide) (by decide) (by decide) fun _ => ?_
    obtain ⟨first, others, rfl, hfirst, -⟩ := hv
    exact isDigit_of_isNameStart hfirst
  have hbegins := BeginsReference.of_cons hwords (by decide) (by decide) (by decide) hnumber
  have before : ∀ other ∈ OperandForm.all.takeWhile (· != .field), (other.reader group).Misses ('.' :: (v ++ more)) := by
    intro other hother
    cases other with
    | field | dot | variablePath | group | function => exact absurd hother (by decide)
    | _ => exact hbegins.misses group rfl
  exact operandOver_of_done .field (by decide) before (andThen_of_done h)

/-- A dollar sign begins nothing but a variable. -/
theorem operandOver_of_variable {s rest : List Char} {e : Operand} (h : variableOperand ('$' :: s) = .done e rest)
    (group : Reader Pipeline) : operandOver group ('$' :: s) = .done e rest := by
  have hwords : ∀ word ∈ operandWords, (keyword word).Misses ('$' :: s) :=
    fun _ hword => keyword_of_not_isAlpha (List.mem_append_right _ hword) (by decide) _
  have hnumber : number.Misses ('$' :: s) :=
    number_misses (by decide) (by decide) (by decide) fun he => absurd he (by decide)
  have hbegins := BeginsReference.of_cons hwords (by decide) (by decide) (by decide) hnumber
  have hpoint : (char '.').Misses ('$' :: s) := ⟨_, char_of_ne (by decide) s⟩
  have before : ∀ other ∈ OperandForm.all.takeWhile (· != .variablePath), (other.reader group).Misses ('$' :: s) := by
    intro other hother
    cases other with
    | field => exact ((hpoint.andThen _).andThen _).andThen _
    | dot => exact hpoint.andThen _
    | variablePath | group | function => exact absurd hother (by decide)
    | _ => exact hbegins.misses group rfl
  exact operandOver_of_done .variablePath (by decide) before h

/-- A name that is no word is tried as everything else, and then as a function. -/
theorem operandOver_of_name {u : List Char} {n : String} (hu : IsName u) (hne : ∀ word ∈ operandWords, u ≠ word.toList)
    (h : name u = .done n []) (group : Reader Pipeline) : operandOver group u = .done (.function n) [] := by
  have hwords : ∀ word ∈ operandWords, (keyword word).Misses u :=
    fun word hword => keyword_of_ne hu.isNameChar (hne word hword)
  obtain ⟨c, v, rfl, hc, -⟩ := hu
  have hother : ∀ d, isNameStart d = false → c ≠ d := fun d hd => ne_of_isNameStart hc hd
  have hmiss : ∀ d, isNameStart d = false → (char d).Misses (c :: v) := fun d hd => ⟨_, char_of_ne (hother d hd) v⟩
  have hnumber : number.Misses (c :: v) :=
    number_misses (hother '+' (by decide)) (hother '-' (by decide)) (isDigit_of_isNameStart hc)
      fun he => absurd he (hother '.' (by decide))
  have hbegins := BeginsReference.of_cons hwords (hother '"' (by decide)) (hother '`' (by decide))
    (hother '\'' (by decide)) hnumber
  have before : ∀ other ∈ OperandForm.all.takeWhile (· != .function), (other.reader group).Misses (c :: v) := by
    intro other hother
    cases other with
    | field => exact (((hmiss '.' (by decide)).andThen _).andThen _).andThen _
    | dot => exact (hmiss '.' (by decide)).andThen _
    | variablePath => exact ((hmiss '$' (by decide)).andThen _).andThen _
    | group => exact (hmiss '(' (by decide)).andThen _
    | function => exact absurd hother (by decide)
    | _ => exact hbegins.misses group rfl
  exact operandOver_of_done .function (by decide) before (andThen_of_done h)

/-! ## Operands by themselves -/

/-- The text of an operand by itself is read as the operand, and begins a pipeline. -/
structure ReadsBack (e : Operand) : Prop where
  begins : BeginsPipeline e.text.toList
  read : ∀ group, operandOver group e.text.toList = .done e []

/-- A word that is an operand is no word of an action. -/
theorem beginsPipeline_of_word {word : String} (h : word ∈ operandWords) : BeginsPipeline word.toList := by
  have hname : IsName word.toList := by
    simp only [operandWords, List.mem_cons, List.not_mem_nil, or_false] at h
    rcases h with rfl | rfl | rfl <;> exact ⟨_, _, rfl, by decide, List.all_eq_true.mp (by decide)⟩
  have hdisjoint : ∀ word ∈ operandWords, ∀ other ∈ actionWords, word.toList ≠ other.toList := by decide
  exact beginsPipeline_of_isName hname (hdisjoint word h)

/-- The words of booleans are read back. -/
theorem readsBack_bool (b : Bool) : ReadsBack (.bool b) := by
  cases b
  · exact ⟨beginsPipeline_of_word (by decide), fun _ => rfl⟩
  · exact ⟨beginsPipeline_of_word (by decide), fun _ => rfl⟩

/-- So is the word for nothing. -/
theorem readsBack_nil : ReadsBack .nil :=
  ⟨beginsPipeline_of_word (by decide), fun _ => rfl⟩

/-- A point by itself begins neither a number nor a path. -/
theorem readsBack_dot : ReadsBack .dot :=
  ⟨BeginsLiteral.beginsPipeline ⟨by decide, by decide, by decide⟩ [], fun _ => rfl⟩

/-- A character constant keeps its spelling, so it is read back as one and not as a number. -/
theorem readsBack_charConstant {s rest : List Char} {x : Char × List Char}
    (h : charConstant.withSpelling s = .done x rest) :
    ReadsBack (.number (String.ofList x.2) (.int (Int64.ofNat x.1.toNat))) := by
  obtain ⟨u, -, ⟨hx, v, rfl⟩, halone⟩ := settles_charConstant.withSpelling.alone h
  have htext : (Operand.text (.number (String.ofList x.2) (.int (Int64.ofNat x.1.toNat)))).toList = '\'' :: v := by
    rw [Operand.text, String.toList_ofList, hx]
  have hc : BeginsLiteral '\'' := ⟨by decide, by decide, by decide⟩
  have hstring := stringLiteral_misses (c := '\'') (by decide) (by decide) v
  constructor <;> rw [htext]
  · exact hc.beginsPipeline v
  · intro group
    have before : ∀ other ∈ OperandForm.all.takeWhile (· != .character), (other.reader group).Misses ('\'' :: v) := by
      intro other hother
      cases other with
      | bool b => exact misses_bool (hc.words v) group b
      | nil => exact (hc.words v "nil" (by decide)).andThen _
      | string => exact hstring.andThen _
      | _ => exact absurd hother (by decide)
    exact operandOver_of_done .character (by decide) before (andThen_of_done halone)

/-- A number keeps its spelling. -/
theorem readsBack_number {s rest : List Char} {x : List Char × Number} (h : number s = .done x rest) :
    ReadsBack (.number (String.ofList x.1) x.2) := by
  obtain ⟨u, -, hx, halone⟩ := settles_number.alone h
  obtain ⟨c, v, rfl, hc⟩ := beginsNumber_of_number halone
  have htext : (Operand.text (.number (String.ofList x.1) x.2)).toList = c :: v := by
    rw [Operand.text, String.toList_ofList, hx]
  constructor <;> rw [htext]
  · exact hc.literal.beginsPipeline v
  · have hread : ¬number.Misses (c :: v) := by simp [Misses, halone]
    exact fun group => (operandOver_of_number hc hread group).trans (andThen_of_done halone)

/-- A path is read back from its names. -/
theorem readsBack_field {s rest : List Char} {path : List String} (h : field s = .done path rest) :
    ReadsBack (.field path) := by
  obtain ⟨u, -, ⟨hpath, v, more, rfl, hv⟩, halone⟩ := settles_field.alone h
  have htext : (Operand.text (.field path)).toList = '.' :: (v ++ more) := hpath.symm
  have hc : BeginsLiteral '.' := ⟨by decide, by decide, by decide⟩
  constructor <;> rw [htext]
  · exact hc.beginsPipeline _
  · exact operandOver_of_field hv halone

/-- At the end and before a path stand no sign and no second variable. -/
theorem targets_of_variableName {s rest : List Char} {first : String} (h : variableName s = .done first rest)
    (hrest : rest = [] ∨ ∃ v, rest = '.' :: v) : targets s = .miss rest := by
  refine (andThen_of_done h).trans ?_
  rcases hrest with rfl | ⟨v, rfl⟩ <;> rfl

/-- A variable as an operand is tried as the target of a pipeline, and then left where it stands. -/
theorem optional_targets_of_variable {more rest : List Char} (hmore : ∀ c ∈ more, isNameChar c = true)
    (hrest : rest = [] ∨ ∃ v, rest = '.' :: v) :
    optional targets ('$' :: (more ++ rest)) = .done none ('$' :: (more ++ rest)) := by
  have hstop : ∀ c, rest.head? = some c → isNameChar c = false := by
    rintro c hc
    rcases hrest with rfl | ⟨v, rfl⟩ <;> cases hc
    decide
  have hname : variableName ('$' :: (more ++ rest)) = .done (String.ofList ('$' :: more)) rest := by
    show (takeWhile isNameChar).andThen (fun more => succeed (String.ofList ('$' :: more))) (more ++ rest) = _
    rw [andThen_of_done (takeWhile_append isNameChar hmore hstop)]
    rfl
  rw [optional, targets_of_variableName hname hrest]

/-- A variable is read back with its path. -/
theorem readsBack_variable {s rest : List Char} {e : Operand} (h : variableOperand s = .done e rest) : ReadsBack e := by
  obtain ⟨u, -, ⟨htext, more, path, rfl, hmore, hpath⟩, halone⟩ := settles_variableOperand.alone h
  constructor <;> rw [← htext]
  · exact ⟨fun _ hword => keyword_of_not_isAlpha (List.mem_append_left _ hword) (by decide) _,
      blanks_of_not_isBlank (by decide) _, optional_targets_of_variable hmore hpath⟩
  · exact operandOver_of_variable halone

/-- The names of functions are no words of the grammar. -/
theorem readsBack_function {s rest : List Char} {n : String} (h : name s = .done n rest) (hn : n ∈ functionNames) :
    ReadsBack (.function n) := by
  obtain ⟨u, -, ⟨rfl, hname⟩, halone⟩ := settles_name.alone h
  have hwords : ∀ n ∈ functionNames, ∀ word ∈ actionWords ++ operandWords, n.toList ≠ word.toList := by decide
  exact ⟨beginsPipeline_of_isName hname fun word hword => hwords n hn word (List.mem_append_left _ hword),
    operandOver_of_name hname (fun word hword => hwords n hn word (List.mem_append_right _ hword)) halone⟩

/-- Whatever operand the grammar reads is read back, strings and pipelines in parentheses aside, and functions that there are
not: they could be words of an action. -/
theorem readsBack_of_operandOver {group : Reader Pipeline} {s rest : List Char} {e : Operand}
    (h : operandOver group s = .done e rest) (hstring : ∀ text, e ≠ .string text) (hgroup : ∀ p, e ≠ .group p)
    (hfunction : ∀ name, e = .function name → name ∈ functionNames) : ReadsBack e := by
  obtain ⟨p, hp, hread⟩ := firstOf_eq_done h
  obtain ⟨form, -, rfl⟩ := List.mem_map.mp hp
  cases form with
  | bool b =>
    have he : e = .bool b := by cases b <;> exact eq_of_constant hread
    exact he ▸ readsBack_bool b
  | nil => exact eq_of_constant hread ▸ readsBack_nil
  | string =>
    obtain ⟨text, _, -, hread⟩ := andThen_eq_done hread
    cases hread
    exact absurd rfl (hstring text)
  | character =>
    obtain ⟨x, _, hfirst, hread⟩ := andThen_eq_done hread
    cases hread
    exact readsBack_charConstant hfirst
  | number =>
    obtain ⟨x, _, hfirst, hread⟩ := andThen_eq_done hread
    cases hread
    exact readsBack_number hfirst
  | field =>
    obtain ⟨path, _, hfirst, hread⟩ := andThen_eq_done hread
    cases hread
    exact readsBack_field hfirst
  | dot =>
    obtain ⟨_, _, -, hread⟩ := andThen_eq_done hread
    cases hread
    exact readsBack_dot
  | variablePath => exact readsBack_variable hread
  | group =>
    -- between the parentheses are blanks, the pipeline and blanks
    obtain ⟨_, _, -, hread⟩ := andThen_eq_done hread
    obtain ⟨_, _, -, hread⟩ := andThen_eq_done hread
    obtain ⟨p, _, -, hread⟩ := andThen_eq_done hread
    obtain ⟨_, _, -, hread⟩ := andThen_eq_done hread
    obtain ⟨_, _, -, hread⟩ := andThen_eq_done hread
    cases hread
    exact absurd rfl (hgroup p)
  | function =>
    obtain ⟨name, _, hfirst, hread⟩ := andThen_eq_done hread
    cases hread
    exact readsBack_function hfirst (hfunction name rfl)

/-- An operand that is read back is an action by itself. -/
theorem ReadsBack.ofBody {e : Operand} (h : ReadsBack e) :
    Action.ofBody e.text.toList = .ok (.output ⟨[], false, [[e]]⟩) :=
  Action.ofBody_of_operand h.begins h.read

end Reader

end QueryTemplate
