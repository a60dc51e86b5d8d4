import QueryTemplate.Proofs.Action.Advance
import QueryTemplate.Proofs.Text.Settled
import QueryTemplate.Syntax.Text

/-!
# What the operands' readers have read

The readers of the grammar for names, paths, character constants and numbers look at the text behind what they read, but they
never take back a decision if this text is cut off (`Reader.Settles`). What they have read is the spelling of the operand.
-/

namespace QueryTemplate

/-- The text of a name: a character that may begin one, and characters that may continue it. -/
def IsName (u : List Char) : Prop :=
  ∃ first more, u = first :: more ∧ isNameStart first = true ∧ ∀ c ∈ more, isNameChar c = true

/-- All characters of a name may continue one. -/
theorem IsName.isNameChar {u : List Char} (h : IsName u) : ∀ c ∈ u, isNameChar c = true := by
  obtain ⟨first, more, rfl, hfirst, hmore⟩ := h
  exact List.forall_mem_cons.mpr ⟨isNameChar_of_isNameStart hfirst, hmore⟩

/-- The text of a path is a point and a name for each step. -/
theorem toList_pathText (path : List String) : (pathText path).toList = path.flatMap fun name => '.' :: name.toList := by
  induction path with
  | nil => rfl
  | cons name path ih =>
    rw [List.flatMap_cons, ← ih, pathText, List.foldr_cons, ← pathText, String.toList_append, String.toList_append]
    rfl

namespace Reader

/-! ## Names and paths -/

/-- A name ends where no character continues it, and a text that is cut off has none there either. -/
theorem settles_name : name.Settles fun n u => u = n.toList ∧ IsName u := by
  refine ((settles_satisfy _).andThen fun first => (settles_takeWhile _).andThen fun more =>
    settles_succeed (String.ofList (first :: more))).mono ?_
  rintro _ _ ⟨first, _, _, rfl, ⟨rfl, hfirst⟩, more, _, _, rfl, ⟨rfl, hmore⟩, rfl, rfl⟩
  rw [List.append_nil, List.singleton_append]
  exact ⟨String.toList_ofList.symm, first, _, rfl, hfirst, hmore⟩

/-- The dollar sign is part of the name of a variable. -/
theorem settles_variableName : variableName.Settles fun n u =>
    u = n.toList ∧ ∃ more, u = '$' :: more ∧ ∀ c ∈ more, isNameChar c = true := by
  refine ((settles_char '$').andThen fun dollar => (settles_takeWhile _).andThen fun more =>
    settles_succeed (String.ofList (dollar :: more))).mono ?_
  rintro _ _ ⟨_, _, _, rfl, ⟨rfl, rfl⟩, more, _, _, rfl, ⟨rfl, hmore⟩, rfl, rfl⟩
  rw [List.append_nil, List.singleton_append]
  exact ⟨String.toList_ofList.symm, _, rfl, hmore⟩

/-- What was read as a step is a point and the name of the step. -/
theorem settles_step : step.Settles fun n u => u = '.' :: n.toList ∧ IsName n.toList := by
  refine ((settles_char '.').andThen fun _ => settles_name).mono ?_
  rintro n _ ⟨_, _, _, rfl, ⟨_, rfl⟩, rfl, hname⟩
  exact ⟨rfl, hname⟩

/-- A step is decided by its point and the character behind it. -/
theorem keepsMissing_step : step.KeepsMissing :=
  keepsMissing_satisfy_andThen fun _ => (keepsMissing_satisfy _).andThen fun _ => (neverMisses_takeWhile _).andThen fun _ =>
    neverMisses_succeed _

/-- The steps of a path are its text. -/
theorem settles_steps : (many step).Settles fun path u => u = (pathText path).toList := by
  refine (settles_step.many advances_step keepsMissing_step).mono ?_
  rintro path _ ⟨us, hus, rfl⟩
  rw [toList_pathText]
  induction hus with
  | nil => rfl
  | cons hfirst _ ih => rw [List.flatten_cons, List.flatMap_cons, ih, hfirst.1]

/-- A path has a step, and so its text begins with a point and a name. -/
theorem settles_field : field.Settles fun path u =>
    u = (pathText path).toList ∧ ∃ v rest, u = '.' :: (v ++ rest) ∧ IsName v := by
  refine (settles_step.andThen fun first => settles_steps.andThen fun more => settles_succeed (first :: more)).mono ?_
  rintro _ _ ⟨first, _, _, rfl, ⟨rfl, hname⟩, more, _, _, rfl, rfl, rfl, rfl⟩
  rw [List.append_nil, toList_pathText, toList_pathText, List.flatMap_cons]
  exact ⟨rfl, first.toList, _, rfl, hname⟩

/-- After the name of a variable comes a path, which is empty or begins with a point. -/
theorem settles_variableOperand : variableOperand.Settles fun e u => u = e.text.toList ∧
    ∃ more rest, u = '$' :: (more ++ rest) ∧ (∀ c ∈ more, isNameChar c = true) ∧ (rest = [] ∨ ∃ v, rest = '.' :: v) := by
  refine (settles_variableName.andThen fun name => settles_steps.andThen fun path =>
    settles_succeed (Operand.variable name path)).mono ?_
  rintro _ _ ⟨name, _, _, rfl, ⟨hname, more, rfl, hmore⟩, path, _, _, rfl, rfl, rfl, rfl⟩
  rw [List.append_nil, Operand.text, String.toList_append, ← hname]
  refine ⟨rfl, more, _, rfl, hmore, ?_⟩
  cases path with
  | nil => exact Or.inl rfl
  | cons first path => exact Or.inr ⟨_, toList_pathText (first :: path)⟩

/-! ## Character constants -/

/-- The digits of a character. What they stand for does not matter. -/
theorem settles_digitsOfChar (p : Char → Bool) (count radix : Nat) :
    (mapOption (exactly p count) (charOfDigits? radix)).Settles fun _ _ => True :=
  ((settles_exactly p count).mapOption _).mono fun _ _ _ => trivial

/-- Each form of an escape by itself. -/
theorem settles_escapeForm (form : EscapeForm) : form.reader.Settles fun _ _ => True := by
  cases form with
  | named letter c => exact ((settles_char letter).andThen fun _ => settles_succeed c).mono fun _ _ _ => trivial
  | hex letter count =>
    exact ((settles_char letter).andThen fun _ => settles_digitsOfChar isHexDigit count 16).mono fun _ _ _ => trivial
  | octal => exact settles_digitsOfChar _ 3 8

/-- An escape that is missed is not found on less text, where digits could only be lacking. -/
theorem keepsMissing_escapeForm (form : EscapeForm) : form.reader.KeepsMissing := by
  cases form with
  | named letter c => exact (keepsMissing_satisfy _).andThen fun _ => neverMisses_succeed c
  | hex letter count => exact keepsMissing_satisfy_andThen fun _ => keepsMissing_mapOption_exactly isHexDigit count _
  | octal => exact keepsMissing_mapOption_exactly _ 3 _

/-- None of the forms is found on less text. -/
theorem keepsMissing_escape : escape.KeepsMissing :=
  keepsMissing_firstOf (List.forall_mem_map.mpr fun form _ => keepsMissing_escapeForm form)

/-- No form that is tried before is found on less text. -/
theorem settles_escape : escape.Settles fun _ _ => True :=
  settles_firstOf (List.forall_mem_map.mpr fun form _ => settles_escapeForm form)
    (List.forall_mem_map.mpr fun form _ => keepsMissing_escapeForm form)

/-- A character constant is an escape if it begins with a backslash, and else one character. -/
theorem settles_constantChar : constantChar.Settles fun _ _ => True := by
  have hescaped : ((char '\\').andThen fun _ => escape).Settles fun _ _ => True :=
    ((settles_char '\\').andThen fun _ => settles_escape).mono fun _ _ _ => trivial
  refine settles_firstOf ?_ ?_ <;> rw [List.forall_mem_cons, List.forall_mem_singleton]
  · exact ⟨hescaped, (settles_satisfy _).mono fun _ _ _ => trivial⟩
  · exact ⟨keepsMissing_satisfy_andThen fun _ => keepsMissing_escape, keepsMissing_satisfy _⟩

/-- A character constant begins with a quote. -/
theorem settles_charConstant : charConstant.Settles fun _ u => ∃ v, u = '\'' :: v := by
  refine ((settles_char '\'').andThen fun _ => settles_constantChar.andThen fun c =>
    (settles_char '\'').andThen fun _ => settles_succeed c).mono ?_
  rintro _ _ ⟨_, _, v, rfl, ⟨_, rfl⟩, -⟩
  exact ⟨v, rfl⟩

/-! ## Numbers -/

/-- A sign that may be absent is read as it stands. -/
theorem settles_sign : sign.Settles fun o u => u = o.toList := by
  refine ((settles_satisfy _).optional (keepsMissing_satisfy _)).mono ?_
  rintro _ _ (⟨rfl, rfl⟩ | ⟨c, rfl, rfl, -⟩) <;> rfl

/-- A first character and those of a class after it. -/
theorem settles_satisfy_takeWhile (p q : Char → Bool) :
    ((satisfy p).andThen fun first => (takeWhile q).andThen fun more => succeed (first :: more)).Settles
      fun cs u => u = cs := by
  refine ((settles_satisfy p).andThen fun first => (settles_takeWhile q).andThen fun more =>
    settles_succeed (first :: more)).mono ?_
  rintro _ _ ⟨first, _, _, rfl, ⟨rfl, -⟩, more, _, _, rfl, ⟨rfl, -⟩, rfl, rfl⟩
  simp

/-- The first character decides. -/
theorem keepsMissing_satisfy_takeWhile (p q : Char → Bool) :
    ((satisfy p).andThen fun first => (takeWhile q).andThen fun more => succeed (first :: more)).KeepsMissing :=
  (keepsMissing_satisfy p).andThen fun _ => (neverMisses_takeWhile q).andThen fun _ => neverMisses_succeed _

/-- Digits are read as they stand. -/
theorem settles_digits : digits.Settles fun cs u => u = cs :=
  settles_satisfy_takeWhile _ _

/-- The first digit decides. -/
theorem keepsMissing_digits : digits.KeepsMissing :=
  keepsMissing_satisfy_takeWhile _ _

/-- An integer with a prefix is read as it stands. -/
theorem settles_prefixedInteger : prefixedInteger.Settles fun cs u => u = cs := by
  refine ((settles_char '0').andThen fun zero => (settles_satisfy _).andThen fun radix =>
    (settles_takeWhile _).andThen fun more => settles_succeed (zero :: radix :: more)).mono ?_
  rintro _ _ ⟨_, _, _, rfl, ⟨rfl, rfl⟩, radix, _, _, rfl, ⟨rfl, -⟩, more, _, _, rfl, ⟨rfl, -⟩, rfl, rfl⟩
  simp

/-- The zero and the letter of the radix decide. -/
theorem keepsMissing_prefixedInteger : prefixedInteger.KeepsMissing :=
  keepsMissing_satisfy_andThen fun _ => (keepsMissing_satisfy _).andThen fun _ =>
    (neverMisses_takeWhile _).andThen fun _ => neverMisses_succeed _

/-- Digits with underscores, and those behind a point, are read as they stand. -/
theorem settles_wholeMantissa : wholeMantissa.Settles fun cs u => u = cs := by
  have hfraction := (settles_satisfy_takeWhile (· == '.') Char.isDigit).optional (keepsMissing_satisfy_takeWhile _ _)
  refine ((settles_satisfy_takeWhile Char.isDigit fun c => c.isDigit || c == '_').andThen fun whole =>
    hfraction.andThen fun fraction => settles_succeed (whole ++ fraction.getD [])).mono ?_
  rintro _ _ ⟨whole, _, _, rfl, rfl, _, _, _, rfl, ⟨rfl, rfl⟩ | ⟨fraction, rfl, rfl⟩, rfl, rfl⟩ <;> simp

/-- The first digit decides, since the point may be absent. -/
theorem keepsMissing_wholeMantissa : wholeMantissa.KeepsMissing :=
  (keepsMissing_satisfy_takeWhile Char.isDigit _).andThen fun _ => (neverMisses_optional _).andThen fun _ =>
    neverMisses_succeed _

/-- A point and the digits behind it are read as they stand. -/
theorem settles_fractionMantissa : fractionMantissa.Settles fun cs u => u = cs := by
  refine ((settles_char '.').andThen fun point => settles_digits.andThen fun more => settles_succeed (point :: more)).mono ?_
  rintro _ _ ⟨_, _, _, rfl, ⟨rfl, rfl⟩, more, _, _, rfl, rfl, rfl, rfl⟩
  simp

/-- The point and the first digit behind it decide. -/
theorem keepsMissing_fractionMantissa : fractionMantissa.KeepsMissing :=
  keepsMissing_satisfy_andThen fun _ => keepsMissing_digits.andThen fun _ => neverMisses_succeed _

/-- An exponent is read as it stands, with its sign. -/
theorem settles_exponentPart : exponentPart.Settles fun cs u => u = cs := by
  refine ((settles_satisfy _).andThen fun e => settles_sign.andThen fun s => settles_digits.andThen fun more =>
    settles_succeed (e :: s.toList ++ more)).mono ?_
  rintro _ _ ⟨e, _, _, rfl, ⟨rfl, -⟩, s, _, _, rfl, rfl, more, _, _, rfl, rfl, rfl, rfl⟩
  simp

/-- The letter, the sign if there is one, and the first digit decide. -/
theorem keepsMissing_exponentPart : exponentPart.KeepsMissing :=
  keepsMissing_satisfy_andThen fun _ =>
    keepsMissing_optional_satisfy_andThen (fun _ => keepsMissing_digits.andThen fun _ => neverMisses_succeed _) ⟨[], rfl⟩

/-- A decimal number is read as it stands: what was taken for its end is no beginning of an exponent on less text. -/
theorem settles_decimal : decimal.Settles fun cs u => u = cs := by
  have hmantissa : (firstOf [wholeMantissa, fractionMantissa]).Settles fun cs u => u = cs := by
    refine settles_firstOf ?_ ?_ <;> rw [List.forall_mem_cons, List.forall_mem_singleton]
    · exact ⟨settles_wholeMantissa, settles_fractionMantissa⟩
    · exact ⟨keepsMissing_wholeMantissa, keepsMissing_fractionMantissa⟩
  have hexponent := settles_exponentPart.optional keepsMissing_exponentPart
  refine (hmantissa.andThen fun mantissa => hexponent.andThen fun exponent =>
    settles_succeed (mantissa ++ exponent.getD [])).mono ?_
  rintro _ _ ⟨mantissa, _, _, rfl, rfl, _, _, _, rfl, ⟨rfl, rfl⟩ | ⟨exponent, rfl, rfl⟩, rfl, rfl⟩ <;> simp

/-- The mantissa decides. -/
theorem keepsMissing_decimal : decimal.KeepsMissing := by
  have hmantissa : (firstOf [wholeMantissa, fractionMantissa]).KeepsMissing := by
    refine keepsMissing_firstOf ?_
    rw [List.forall_mem_cons, List.forall_mem_singleton]
    exact ⟨keepsMissing_wholeMantissa, keepsMissing_fractionMantissa⟩
  exact hmantissa.andThen fun _ => (neverMisses_optional _).andThen fun _ => neverMisses_succeed _

/-- The spelling of a number is read as it stands. -/
theorem settles_numberSpelling : numberSpelling.Settles fun cs u => u = cs := by
  have hmagnitude : (firstOf [prefixedInteger, decimal]).Settles fun cs u => u = cs := by
    refine settles_firstOf ?_ ?_ <;> rw [List.forall_mem_cons, List.forall_mem_singleton]
    · exact ⟨settles_prefixedInteger, settles_decimal⟩
    · exact ⟨keepsMissing_prefixedInteger, keepsMissing_decimal⟩
  refine (settles_sign.andThen fun s => hmagnitude.andThen fun magnitude => (settles_notNext isNameChar).andThen fun _ =>
    settles_succeed (s.toList ++ magnitude)).mono ?_
  rintro _ _ ⟨s, _, _, rfl, rfl, magnitude, _, _, rfl, rfl, _, _, _, rfl, rfl, rfl, rfl⟩
  simp

/-- A number is read with its spelling, and the value depends on the spelling alone. -/
theorem settles_number : number.Settles fun x u => u = x.1 := by
  intro s x rest h
  rw [number] at h
  split at h
  · rename_i spelling mid hspelling
    split at h
    · rename_i value hvalue
      cases h
      obtain ⟨u, rfl, rfl, hcut⟩ := settles_numberSpelling s spelling _ hspelling
      refine ⟨u, rfl, rfl, fun t ht => ?_⟩
      rw [number, hcut t ht]
      dsimp only
      rw [hvalue]
    · cases h
  · cases h
  · cases h

end Reader

end QueryTemplate
