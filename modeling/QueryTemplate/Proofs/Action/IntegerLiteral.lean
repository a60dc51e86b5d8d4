import QueryTemplate.Proofs.Action.Single
import QueryTemplate.Proofs.Number.Numeral
import QueryTemplate.Proofs.Number.Represented

/-!
# Integer literals

The grammar of integers takes more than has a value: any hexadecimal digits after the prefix of any radix, or none at all,
and numbers of any size. What an integer literal stands for (`Evaluates`) follows from its sign, its radix and its digits
(`IntegerLiteral`), and what stands for nothing is malformed (`IntegerLiteral.evaluated`).
-/

namespace QueryTemplate

/-- The letters that choose a radix after a zero, each with its radix. -/
def radixLetters : List (Char × Nat) :=
  [('x', 16), ('X', 16), ('o', 8), ('O', 8), ('b', 2), ('B', 2)]

/-- A text without underscores. -/
def unseparated (s : List Char) : List Char :=
  s.filter (· != '_')

/-- An optional sign, and whether it makes a number negative. -/
inductive SignText : List Char → Bool → Prop where
  | none : SignText [] false
  | plus : SignText ['+'] false
  | minus : SignText ['-'] true

/-- An integer without sign, its radix, and its digits. A leading zero before more digits makes them octal. -/
inductive Magnitude : List Char → Nat → List Char → Prop where
  | decimal {c : Char} {s : List Char} (hc : c.isDigit = true) (hs : ∀ d ∈ s, d.isDigit = true ∨ d = '_')
      (hzero : c = '0' → unseparated s = []) : Magnitude (c :: s) 10 (c :: unseparated s)
  | leadingZero {s : List Char} (hs : ∀ d ∈ s, d.isDigit = true ∨ d = '_') (hmore : unseparated s ≠ []) :
      Magnitude ('0' :: s) 8 ('0' :: unseparated s)
  | withRadix {c : Char} {radix : Nat} {s : List Char} (hc : (c, radix) ∈ radixLetters)
      (hs : ∀ d ∈ s, (∃ v, IsDigit d v) ∨ d = '_') : Magnitude ('0' :: c :: s) radix (unseparated s)

/-- The text of an integer literal, whether it is negative, its radix and its digits. -/
inductive IntegerLiteral : List Char → Bool → Nat → List Char → Prop where
  | mk {sign body digits : List Char} {negative : Bool} {radix : Nat} (hsign : SignText sign negative)
      (hbody : Magnitude body radix digits) : IntegerLiteral (sign ++ body) negative radix digits

/-- A number with its sign. -/
def signed (negative : Bool) (n : Nat) : Int :=
  if negative then -n else n

/-- What digits in a radix stand for after a sign: the number that they write, in its one representation, and nothing if it
has none. -/
inductive Evaluates (negative : Bool) (radix : Nat) (digits : List Char) : Option Number → Prop where
  | value {n : Nat} {x : Number} (hn : Numeral radix digits n) (hx : Number.Represents (signed negative n) x) :
      Evaluates negative radix digits (some x)
  | outside {n : Nat} (hn : Numeral radix digits n) (h : signed negative n < -2 ^ 63 ∨ 2 ^ 64 ≤ signed negative n) :
      Evaluates negative radix digits none
  | noDigit (h : digits = []) : Evaluates negative radix digits none
  | badDigit {c : Char} {d : Nat} (hc : c ∈ digits) (hd : IsDigit c d) (hle : radix ≤ d) :
      Evaluates negative radix digits none

/-! ## Values -/

theorem exists_isDigit_of_decimal {c : Char} (h : c.isDigit = true) : ∃ d, IsDigit c d ∧ d < 10 := by
  refine ⟨c.toNat - '0'.toNat, digitValue?_eq_some_iff.mp (if_pos h), ?_⟩
  simp only [Char.isDigit, Bool.and_eq_true, decide_eq_true_eq, UInt32.le_iff_toNat_le] at h
  have hupper : c.toNat ≤ 57 := h.2
  show c.toNat - 48 < 10
  omega

/-- A character at which nothing but a number may begin. -/
structure BeginsNumber (c : Char) : Prop where
  literal : Reader.BeginsLiteral c
  notDouble : c ≠ '"'
  notSingle : c ≠ '\''
  notRaw : c ≠ '`'
  notSlash : c ≠ '/'

theorem BeginsNumber.of_isDigit {c : Char} (h : c.isDigit = true) : BeginsNumber c := by
  obtain ⟨d, hd, hlt⟩ := exists_isDigit_of_decimal h
  interval_cases d <;> rcases hd with hd | hd <;> cases hd <;>
    exact ⟨⟨by decide, by decide, by decide⟩, by decide, by decide, by decide, by decide⟩

/-- Not above zero only the signed integers of 64 bits matter. -/
theorem Number.ofInt?_of_nonpos {n : Int} (h : n ≤ 0) : ofInt? n = (int64? n).map .int := by
  rw [ofInt?]
  split
  · rename_i hn
    rw [hn]
    rfl
  · rename_i hnone
    have hlow : n < 0 := by
      rw [int64?] at hnone
      split at hnone
      · cases hnone
      · omega
    rw [hnone, uint64?, if_neg (by omega)]
    rfl

/-- The stages after the magnitude are the one rule for the representation of integers. -/
theorem Number.narrowed?_eq (negative : Bool) (n : Nat) : narrowed? negative n = ofInt? (signed negative n) := by
  cases negative with
  | false =>
    rw [narrowed?, if_neg Bool.false_ne_true, signed, if_neg Bool.false_ne_true]
    cases hn : int64? (n : Int) <;> rw [ofInt?, hn]
  | true =>
    rw [narrowed?, if_pos rfl, signed, if_pos rfl, Option.bind_eq_bind]
    by_cases hn : (n : Int) < 2 ^ 127
    · rw [int128?, if_pos ⟨by omega, hn⟩, Option.bind_some, ofInt?_of_nonpos (by omega)]
    · rw [int128?, if_neg (by omega), Option.bind_none, ofInt?_eq_none (Or.inl (by omega))]

/-- All of the stages are the one rule: what does not fit 128 bits does not fit 64. -/
theorem Number.ofDigits?_of_numeral {negative : Bool} {radix : Nat} {digits : List Char} {n : Nat}
    (h : Numeral radix digits n) : ofDigits? negative radix digits = ofInt? (signed negative n) := by
  show (readDigits? radix digits).bind (fun m => (uint128? m).bind (narrowed? negative)) = _
  rw [readDigits?_eq_some_iff.mpr h, Option.bind_some]
  by_cases hn : n < 2 ^ 128
  · rw [uint128?, if_pos (by omega), Option.bind_some, narrowed?_eq]
  · have houtside : signed negative n < -2 ^ 63 ∨ 2 ^ 64 ≤ signed negative n := by
      rw [signed]
      split <;> omega
    rw [uint128?, if_neg (by omega), Option.bind_none, ofInt?_eq_none houtside]

/-- Digits are evaluated by the one rule for the representation of integers. -/
theorem Evaluates.ofDigits? {negative : Bool} {radix : Nat} {digits : List Char} {o : Option Number}
    (h : Evaluates negative radix digits o) : Number.ofDigits? negative radix digits = o := by
  have hnone : (∀ n, ¬Numeral radix digits n) → Number.ofDigits? negative radix digits = none := by
    intro h
    have hread : readDigits? radix digits = none :=
      Option.eq_none_iff_forall_ne_some.mpr fun n hn => h n (readDigits?_eq_some_iff.mp hn)
    rw [Number.ofDigits?, hread]
    rfl
  cases h with
  | value hn hx => exact (Number.ofDigits?_of_numeral hn).trans (Number.ofInt?_eq_some_iff.mpr hx)
  | outside hn h => exact (Number.ofDigits?_of_numeral hn).trans (Number.ofInt?_eq_none h)
  | noDigit h => exact hnone fun n hn => hn.1 h
  | badDigit hc hd hle => exact hnone fun n => not_numeral_of_le hc hd hle

/-- Digits stand for a number or for nothing. -/
theorem exists_evaluates (negative : Bool) {radix : Nat} {digits : List Char} (h : ∀ c ∈ digits, ∃ v, IsDigit c v) :
    ∃ o, Evaluates negative radix digits o := by
  by_cases hempty : digits = []
  · exact ⟨none, .noDigit hempty⟩
  by_cases hbelow : ∀ c ∈ digits, ∃ v, IsDigit c v ∧ v < radix
  · obtain ⟨n, hn⟩ := exists_numeral hempty hbelow
    rcases Number.exists_represents (signed negative n) with ⟨x, hx⟩ | houtside
    · exact ⟨some x, .value hn hx⟩
    · exact ⟨none, .outside hn houtside⟩
  · push Not at hbelow
    obtain ⟨c, hc, hle⟩ := hbelow
    obtain ⟨v, hv⟩ := h c hc
    exact ⟨none, .badDigit hc hv (hle v hv)⟩

/-- What holds of all characters but the underscores holds of those that are left without them. -/
theorem of_mem_unseparated {P : Char → Prop} {s : List Char} (hs : ∀ d ∈ s, P d ∨ d = '_') {d : Char}
    (hd : d ∈ unseparated s) : P d := by
  obtain ⟨hmem, hne⟩ := List.mem_filter.mp hd
  exact (hs d hmem).resolve_right (bne_iff_ne.mp hne)

namespace Magnitude

variable {body digits : List Char} {radix : Nat}

theorem exists_isDigit (h : Magnitude body radix digits) : ∀ c ∈ digits, ∃ v, IsDigit c v := by
  have hdecimal : ∀ {c : Char}, c.isDigit = true → ∃ v, IsDigit c v := fun hc =>
    (exists_isDigit_of_decimal hc).imp fun _ hd => hd.1
  cases h with
  | decimal hc hs =>
    exact List.forall_mem_cons.mpr ⟨hdecimal hc, fun d hd => hdecimal (of_mem_unseparated hs hd)⟩
  | leadingZero hs =>
    exact List.forall_mem_cons.mpr ⟨hdecimal rfl, fun d hd => hdecimal (of_mem_unseparated hs hd)⟩
  | withRadix hc hs => exact fun d hd => of_mem_unseparated hs hd

/-- An integer begins with a digit. -/
theorem exists_cons (h : Magnitude body radix digits) : ∃ c s, body = c :: s ∧ c.isDigit = true := by
  cases h with
  | decimal hc => exact ⟨_, _, rfl, hc⟩
  | leadingZero => exact ⟨_, _, rfl, rfl⟩
  | withRadix => exact ⟨_, _, rfl, rfl⟩

/-- The value of an integer without underscores is that of its digits in its radix. -/
theorem ofMagnitude? (h : Magnitude body radix digits) (negative : Bool) :
    Number.ofMagnitude? negative (unseparated body) = Number.ofDigits? negative radix digits := by
  have hdecimal : ∀ {s : List Char}, (∀ d ∈ s, d.isDigit = true) →
      Number.ofDecimalText? negative s = Number.ofDigits? negative 10 s := by
    intro s hs
    refine if_neg fun hany => ?_
    obtain ⟨d, hd, hmark⟩ := List.any_eq_true.mp hany
    have hdigit := hs d hd
    simp only [Bool.or_eq_true, beq_iff_eq] at hmark
    rcases hmark with (rfl | rfl) | rfl <;> cases hdigit
  cases h with
  | @decimal c s hc hs hzero =>
    have hall : ∀ d ∈ c :: unseparated s, d.isDigit = true := List.forall_mem_cons.mpr ⟨hc, fun _ => of_mem_unseparated hs⟩
    have hbody : unseparated (c :: s) = c :: unseparated s :=
      List.filter_cons_of_pos (bne_iff_ne.mpr (by rintro rfl; cases hc))
    rw [hbody, ← hdecimal hall]
    cases hmore : unseparated s with
    | nil => rfl
    | cons d rest =>
      have hne : c ≠ '0' := fun he => List.cons_ne_nil d rest (hmore ▸ hzero he)
      exact if_neg hne
  | @leadingZero s hs hmore =>
    obtain ⟨d, rest, hrest⟩ := List.exists_cons_of_ne_nil hmore
    have hall : ∀ e ∈ d :: rest, e.isDigit = true := fun _ he => of_mem_unseparated hs (hrest ▸ he)
    have hdigit : d.isDigit = true := hall d List.mem_cons_self
    have hletter : Number.prefixRadix? d = none := by
      rw [Number.prefixRadix?, if_neg (by rintro (rfl | rfl) <;> cases hdigit),
        if_neg (by rintro (rfl | rfl) <;> cases hdigit), if_neg (by rintro (rfl | rfl) <;> cases hdigit)]
    have hbody : unseparated ('0' :: s) = '0' :: d :: rest := (List.filter_cons_of_pos rfl).trans (congrArg _ hrest)
    rw [hbody, hrest, Number.ofMagnitude?, if_pos rfl, hletter]
    show (if (d :: rest).all Char.isDigit then _ else _) = _
    rw [if_pos (List.all_eq_true.mpr hall), Number.ofDigits?, Number.ofDigits?,
      readDigits?_zero_cons (by decide) (List.cons_ne_nil d rest)]
  | @withRadix c radix s hc =>
    have hletter : Number.prefixRadix? c = some radix ∧ c ≠ '_' := by
      simp only [radixLetters, List.mem_cons, Prod.mk.injEq, List.not_mem_nil, or_false] at hc
      rcases hc with ⟨rfl, rfl⟩ | ⟨rfl, rfl⟩ | ⟨rfl, rfl⟩ | ⟨rfl, rfl⟩ | ⟨rfl, rfl⟩ | ⟨rfl, rfl⟩ <;> decide
    have hbody : unseparated ('0' :: c :: s) = '0' :: c :: unseparated s :=
      (List.filter_cons_of_pos rfl).trans (congrArg _ (List.filter_cons_of_pos (bne_iff_ne.mpr hletter.2)))
    rw [hbody, Number.ofMagnitude?, if_pos rfl, hletter.1]

/-! ## Reading -/

open Reader

/-- Digits and underscores are no letters that choose a radix. -/
theorem prefixedInteger_of_digits {c : Char} {s : List Char} (hs : ∀ d ∈ s, d.isDigit = true ∨ d = '_') :
    prefixedInteger.Misses (c :: s) := by
  by_cases hc : c = '0'
  · subst hc
    cases s with
    | nil => exact ⟨[], rfl⟩
    | cons d s =>
      have hletter : ("xXoObB".toList.contains d) = false := by
        rcases hs d List.mem_cons_self with hd | rfl
        · refine Bool.eq_false_iff.mpr fun hmem => ?_
          have hmem : d ∈ ['x', 'X', 'o', 'O', 'b', 'B'] := List.contains_iff_mem.mp hmem
          simp only [List.mem_cons, List.not_mem_nil, or_false] at hmem
          rcases hmem with rfl | rfl | rfl | rfl | rfl | rfl <;> cases hd
        · decide
      have hmiss : satisfy (fun c => "xXoObB".toList.contains c) (d :: s) = .miss (d :: s) :=
        if_neg (Bool.eq_false_iff.mp hletter)
      exact ⟨d :: s, andThen_of_miss hmiss⟩
  · exact ⟨c :: s, andThen_of_miss (char_of_ne hc s)⟩

/-- A text of one class of characters is taken as a whole. -/
theorem takeWhile_of_forall {p : Char → Bool} {s : List Char} (h : ∀ c ∈ s, p c = true) :
    takeWhile p s = .done s [] := by
  have htake : takeWhile p (s ++ []) = .done s [] := takeWhile_append p h (by simp)
  rwa [List.append_nil] at htake

theorem decimal_of_digits {c : Char} {s : List Char} (hc : c.isDigit = true)
    (hs : ∀ d ∈ s, d.isDigit = true ∨ d = '_') : Reader.decimal (c :: s) = .done (c :: s) [] := by
  have hfirst : satisfy Char.isDigit (c :: s) = .done c s := if_pos hc
  have hmore : takeWhile (fun c => c.isDigit || c == '_') s = .done s [] :=
    takeWhile_of_forall fun d hd => by simpa using hs d hd
  have hdigits : separatedDigits (c :: s) = .done (c :: s) [] := by
    show (satisfy Char.isDigit).andThen
      (fun first => (takeWhile fun c => c.isDigit || c == '_').andThen fun more => succeed (first :: more)) (c :: s) = _
    rw [andThen_of_done hfirst, andThen_of_done hmore]
    rfl
  have hwhole : wholeMantissa (c :: s) = .done (c :: s) [] := by
    refine (andThen_of_done hdigits).trans ?_
    show Reading.done (c :: s ++ []) [] = _
    rw [List.append_nil]
  refine (andThen_of_done (firstOf_cons_of_done hwhole)).trans ?_
  show Reading.done (c :: s ++ []) [] = _
  rw [List.append_nil]

theorem prefixedInteger_of_letter {c : Char} {radix : Nat} {s : List Char} (hc : (c, radix) ∈ radixLetters)
    (hs : ∀ d ∈ s, (∃ v, IsDigit d v) ∨ d = '_') : prefixedInteger ('0' :: c :: s) = .done ('0' :: c :: s) [] := by
  have hletter : satisfy (fun c => "xXoObB".toList.contains c) (c :: s) = .done c s := by
    simp only [radixLetters, List.mem_cons, Prod.mk.injEq, List.not_mem_nil, or_false] at hc
    rcases hc with ⟨rfl, rfl⟩ | ⟨rfl, rfl⟩ | ⟨rfl, rfl⟩ | ⟨rfl, rfl⟩ | ⟨rfl, rfl⟩ | ⟨rfl, rfl⟩ <;> rfl
  have hmore : takeWhile (fun c => isHexDigit c || c == '_') s = .done s [] := by
    refine takeWhile_of_forall fun d hd => ?_
    rcases hs d hd with ⟨v, hv⟩ | rfl
    · rw [isHexDigit, digitValue?_of_isDigit hv]
      rfl
    · rfl
  show (satisfy fun c => "xXoObB".toList.contains c).andThen
    (fun radix => (takeWhile fun c => isHexDigit c || c == '_').andThen fun more => succeed ('0' :: radix :: more))
    (c :: s) = _
  rw [andThen_of_done hletter, andThen_of_done hmore]
  rfl

/-- An integer is read as a whole. -/
theorem read (h : Magnitude body radix digits) :
    firstOf [prefixedInteger, Reader.decimal] body = .done body [] := by
  have hplain : ∀ {c : Char} {s : List Char}, c.isDigit = true → (∀ d ∈ s, d.isDigit = true ∨ d = '_') →
      firstOf [prefixedInteger, Reader.decimal] (c :: s) = .done (c :: s) [] := by
    intro c s hc hs
    exact ((prefixedInteger_of_digits hs).firstOf_cons _ _).trans ((firstOf_singleton _ _).trans (decimal_of_digits hc hs))
  cases h with
  | decimal hc hs => exact hplain hc hs
  | leadingZero hs => exact hplain rfl hs
  | withRadix hc hs => exact firstOf_cons_of_done (prefixedInteger_of_letter hc hs)

end Magnitude

namespace IntegerLiteral

open Reader

variable {text digits : List Char} {negative : Bool} {radix : Nat}

/-- An integer literal begins with a sign or a digit. -/
theorem exists_cons (h : IntegerLiteral text negative radix digits) : ∃ c s, text = c :: s ∧ BeginsNumber c := by
  obtain ⟨hsign, hbody⟩ := h
  obtain ⟨c, s, rfl, hc⟩ := hbody.exists_cons
  cases hsign with
  | none => exact ⟨c, s, rfl, .of_isDigit hc⟩
  | plus => exact ⟨'+', c :: s, rfl, ⟨by decide, by decide, by decide⟩, by decide, by decide, by decide, by decide⟩
  | minus => exact ⟨'-', c :: s, rfl, ⟨by decide, by decide, by decide⟩, by decide, by decide, by decide, by decide⟩

theorem exists_isDigit (h : IntegerLiteral text negative radix digits) : ∀ c ∈ digits, ∃ v, IsDigit c v := by
  obtain ⟨-, hbody⟩ := h
  exact hbody.exists_isDigit

/-- An integer literal is the spelling of a number as it stands. -/
theorem numberSpelling_eq (h : IntegerLiteral text negative radix digits) : numberSpelling text = .done text [] := by
  obtain ⟨hsign, hbody⟩ := h
  rename_i sgn body
  have hread : ∀ o : Option Char, sign (sgn ++ body) = .done o body → o.toList = sgn →
      numberSpelling (sgn ++ body) = .done (sgn ++ body) [] := by
    rintro o hsign rfl
    show sign.andThen (fun s => (firstOf [prefixedInteger, decimal]).andThen fun magnitude =>
      (notNext isNameChar).andThen fun _ => succeed (s.toList ++ magnitude)) (o.toList ++ body) = _
    rw [andThen_of_done hsign, andThen_of_done hbody.read]
    rfl
  obtain ⟨c, s, rfl, hc⟩ := hbody.exists_cons
  cases hsign with
  | none =>
    have hmiss : satisfy (fun c => c == '+' || c == '-') (c :: s) = .miss (c :: s) := by
      refine if_neg fun hsign => ?_
      simp only [Bool.or_eq_true, beq_iff_eq] at hsign
      rcases hsign with rfl | rfl <;> cases hc
    refine hread none ?_ rfl
    show Reader.optional _ _ = _
    rw [Reader.optional, List.nil_append, hmiss]
  | plus => exact hread (some '+') rfl rfl
  | minus => exact hread (some '-') rfl rfl

/-- The value of an integer literal is that of its digits in its radix. -/
theorem ofSpelling?_eq (h : IntegerLiteral text negative radix digits) :
    Number.ofSpelling? text = Number.ofDigits? negative radix digits := by
  obtain ⟨hsign, hbody⟩ := h
  rw [← hbody.ofMagnitude?]
  obtain ⟨c, s, rfl, hc⟩ := hbody.exists_cons
  cases hsign with
  | none =>
    have hfirst : unseparated (c :: s) = c :: unseparated s :=
      List.filter_cons_of_pos (bne_iff_ne.mpr (by rintro rfl; cases hc))
    rw [Number.ofSpelling?, List.nil_append, ← unseparated, hfirst]
    exact (if_neg (by rintro rfl; cases hc)).trans (if_neg (by rintro rfl; cases hc))
  | plus => rfl
  | minus => rfl

end IntegerLiteral

/-- Where a number may begin an operand is a number, if the reader for numbers does not miss. -/
theorem Reader.operandOver_of_number {c : Char} (hc : BeginsNumber c) {s : List Char} (h : ¬number.Misses (c :: s))
    (group : Reader Pipeline) : operandOver group (c :: s) = OperandForm.number.reader group (c :: s) := by
  have before : ∀ other ∈ OperandForm.all.takeWhile (· != .number), (other.reader group).Misses (c :: s) := by
    intro other hother
    cases other with
    | bool b => exact misses_bool (hc.literal.words s) group b
    | nil => exact (hc.literal.words s "nil" (by decide)).andThen _
    | string => exact (stringLiteral_misses hc.notDouble hc.notRaw s).andThen _
    | character => exact (charConstant_misses hc.notSingle s).withSpelling.andThen _
    | _ => exact absurd hother (by decide)
  exact operandOver_of_form (by decide) before fun hmiss => h hmiss.of_andThen_succeed

namespace IntegerLiteral

open Reader

variable {text digits : List Char} {negative : Bool} {radix : Nat}

/-- An integer literal with a value is the body of an action with the number as its operand. -/
theorem ofBody_of_some (h : IntegerLiteral text negative radix digits) {x : Number}
    (hx : Number.ofSpelling? text = some x) :
    Action.ofBody text = .ok (.output ⟨[], false, [[.number (String.ofList text) x]]⟩) := by
  have hspelling := h.numberSpelling_eq
  obtain ⟨c, s, rfl, hc⟩ := h.exists_cons
  have hnumber : number (c :: s) = .done (c :: s, x) [] := by
    rw [number, hspelling]
    dsimp only
    rw [hx]
  have hread : ¬number.Misses (c :: s) := by simp [Misses, hnumber]
  exact Action.ofBody_of_operand (hc.literal.beginsPipeline s)
    fun group => (operandOver_of_number hc hread group).trans (andThen_of_done hnumber)

/-- Nothing is read of an integer literal without a value. -/
theorem ofBody_of_none (h : IntegerLiteral text negative radix digits) (hnone : Number.ofSpelling? text = none) :
    Action.ofBody text = .error (0, Action.unexpected text) := by
  have hspelling := h.numberSpelling_eq
  obtain ⟨c, s, rfl, hc⟩ := h.exists_cons
  have hnumber : number (c :: s) = .fail (c :: s) := by
    rw [number, hspelling]
    dsimp only
    rw [hnone]
  have hread : ¬number.Misses (c :: s) := by simp [Misses, hnumber]
  have hbody := Action.ofBody_of_fail (hc.literal.beginsPipeline s)
    fun group => (operandOver_of_number hc hread group).trans (andThen_of_fail hnumber)
  rwa [offsetIn, Nat.sub_self] at hbody

/-- An integer literal between braces is one action, whether it has a value or not. -/
theorem ofSource_braced (h : IntegerLiteral text negative radix digits) :
    Item.ofSource (braced text).toList = .ok [.action 2 text] := by
  have henclosable : Enclosable text := by
    obtain ⟨u, hu, henclosable⟩ := within_numberSpelling text text [] h.numberSpelling_eq
    rwa [hu, List.append_nil]
  refine Item.ofSource_braced henclosable ?_ ?_
  · obtain ⟨c, s, rfl, hc⟩ := h.exists_cons
    simp [List.isPrefixOf, Ne.symm hc.notSlash]
  · rcases Item.leftMarker_cases (text ++ ['}', '}']) with ⟨d, rest, hblank, htext, -⟩ | hnone
    · -- behind a minus sign stands a digit, and no blank
      exfalso
      obtain ⟨hsign, hbody⟩ := h
      obtain ⟨c, s, rfl, hc⟩ := hbody.exists_cons
      cases hsign with
      | none =>
        obtain ⟨rfl, -⟩ := List.cons.inj htext
        cases hc
      | plus => exact absurd (List.cons.inj htext).1 (by decide)
      | minus =>
        obtain ⟨rfl, -⟩ := List.cons.inj (List.cons.inj htext).2
        rw [(BeginsNumber.of_isDigit hc).literal.notBlank] at hblank
        cases hblank
    · exact hnone

/-- The value of an integer literal is exactly what its digits stand for in its radix and after its sign: the integer that
they write in its one representation, and nothing if this is out of the range of both kinds of integers, if there is no digit
or if one is not below the radix. The source that is nothing but the literal between braces has one action with this number,
spelled as it is there, as its only operand, and is malformed if there is none. -/
theorem evaluated (h : IntegerLiteral text negative radix digits) :
    (∀ o, Number.ofSpelling? text = o ↔ Evaluates negative radix digits o) ∧
      match Number.ofSpelling? text with
      | some x => Node.parse (braced text) = .ok [.action ⟨[], false, [[.number (String.ofList text) x]]⟩]
      | none => ∃ offset cause, Node.parse (braced text) = .error (.parse offset cause) := by
  refine ⟨fun o => ⟨?_, fun ho => h.ofSpelling?_eq.trans ho.ofDigits?⟩, ?_⟩
  · rintro rfl
    obtain ⟨o, ho⟩ : ∃ o, Evaluates negative radix digits o := exists_evaluates negative h.exists_isDigit
    rwa [h.ofSpelling?_eq, ho.ofDigits?]
  · split
    · rename_i x hx
      exact Node.parse_of_literal (h.ofBody_of_some hx) rfl
    · rename_i hnone
      exact ⟨_, _, Node.parse_of_malformed h.ofSource_braced (h.ofBody_of_none hnone)⟩

/-- The least signed integer, and an octal number with a digit that is not octal. -/
theorem evaluated_least_and_malformed :
    IntegerLiteral "-0x8000_0000_0000_0000".toList true 16 "8000000000000000".toList ∧
      Number.ofSpelling? "-0x8000_0000_0000_0000".toList = some (.int (-9223372036854775808)) ∧
      Node.parse (braced "-0x8000_0000_0000_0000".toList) =
        .ok [.action ⟨[], false, [[.number "-0x8000_0000_0000_0000" (.int (-9223372036854775808))]]⟩] ∧
      IntegerLiteral "+01_8".toList false 8 "018".toList ∧ Number.ofSpelling? "+01_8".toList = none ∧
      ∃ offset cause, Node.parse (braced "+01_8".toList) = .error (.parse offset cause) :=
  have hhex : ∀ d ∈ "8000_0000_0000_0000".toList, (∃ v, IsDigit d v) ∨ d = '_' := by
    have hall : "8000_0000_0000_0000".toList.all (fun d => isHexDigit d || d == '_') = true := by decide
    intro d hd
    refine (Bool.or_eq_true_iff.mp (List.all_eq_true.mp hall d hd)).imp (fun hdigit => ?_) beq_iff_eq.mp
    obtain ⟨v, hv⟩ := Option.isSome_iff_exists.mp hdigit
    exact ⟨v, digitValue?_eq_some_iff.mp hv⟩
  have hleast : IntegerLiteral "-0x8000_0000_0000_0000".toList true 16 "8000000000000000".toList :=
    .mk .minus (.withRadix (by decide) hhex)
  have hoctal : IntegerLiteral "+01_8".toList false 8 "018".toList :=
    .mk .plus (.leadingZero (List.forall_mem_cons.mpr ⟨Or.inl rfl, List.forall_mem_cons.mpr ⟨Or.inr rfl,
      List.forall_mem_singleton.mpr (Or.inl rfl)⟩⟩) (by decide))
  have hvalue : Number.ofSpelling? "-0x8000_0000_0000_0000".toList = some (.int (-9223372036854775808)) := by decide
  have hnone : Number.ofSpelling? "+01_8".toList = none := by decide
  have hparse : Node.parse (braced "-0x8000_0000_0000_0000".toList) =
      .ok [.action ⟨[], false, [[.number "-0x8000_0000_0000_0000" (.int (-9223372036854775808))]]⟩] := by
    have h := (evaluated hleast).2
    rwa [hvalue, String.ofList_toList] at h
  have herror : ∃ offset cause, Node.parse (braced "+01_8".toList) = .error (.parse offset cause) := by
    have h := (evaluated hoctal).2
    rwa [hnone] at h
  ⟨hleast, hvalue, hparse, hoctal, hnone, herror⟩

end IntegerLiteral

end QueryTemplate
