import QueryTemplate.Proofs.Bytes.Text
import QueryTemplate.Proofs.Source.Layout
import QueryTemplate.Proofs.Source.Passage

/-!
# The end of an action in bytes

The end of an action is found by a loop over the bytes of the source. Within quotes a backslash takes the next byte along, so
an offset may stand inside a character; it leaves the character before anything is cut there, since the loop stops only at
bytes of ASCII characters. The twins of the loops are `Item.closeAction` outside quotes (`actionAgrees`) and within them
(`quoteAgrees`).
-/

namespace QueryTemplate

namespace Bytes

open Checked

/-- The offset at which a character first stands in a text. -/
def findChar? (c : Char) (s : List Char) : Option Nat :=
  if c ∈ s then some (utf8Length (s.takeWhile (· != c))) else none

/-- The offset of the quote that ends a literal, from an offset inside the literal on. A backslash takes the byte after it
along, which may be the first of several bytes of a character. -/
def closingQuote (bytes : List UInt8) (quote : UInt8) (i : Nat) : Except Error Nat :=
  match _hi : bytes[i]? with
  | none => .error (.parse i .unterminatedString)
  | some b =>
    if b = byteOf '\n' then .error (.parse i .unterminatedString)
    else if b = byteOf '\\' then closingQuote bytes quote (i + 2)
    else if b = quote then .ok i
    else closingQuote bytes quote (i + 1)
termination_by bytes.length - i
decreasing_by
  all_goals
    have := (List.getElem?_eq_some_iff.mp _hi).1
    omega

/-- A closing quote is not found before the place where the search begins. -/
theorem le_of_closingQuote {bytes : List UInt8} {quote : UInt8} {i j : Nat} (h : closingQuote bytes quote i = .ok j) :
    i ≤ j := by
  fun_induction closingQuote bytes quote i with
  | case1 | case2 => cases h
  | case3 i _ _ ih =>
    have := ih h
    omega
  | case4 => cases h; exact Nat.le_refl _
  | case5 i _ _ _ _ _ ih =>
    have := ih h
    omega

/-- Whether the bytes before an offset are the blank and the dash of a right trim marker. -/
def endsWithMarker (bytes : List UInt8) (start i : Nat) : Checked Bool := do
  if start + 2 ≤ i then
    let dash ← require bytes[i - 1]?
    if dash = byteOf '-' then
      let blank ← require bytes[i - 2]?
      return isBlank (Char.ofNat blank.toNat)
    else return false
  else return false

/-- Where the body of an action ends, the offset behind its closing braces, and whether they carry a trim marker. -/
def actionEnd (source : List Char) (opening start i : Nat) : Checked (Nat × Nat × Bool) := do
  if _hi : i < (utf8Bytes source).length then
    let b ← require (utf8Bytes source)[i]?
    if b = byteOf '"' ∨ b = byteOf '\'' then
      match _hquote : closingQuote (utf8Bytes source) b (i + 1) with
      | .error e => outcome (.error e)
      | .ok j => actionEnd source opening start (j + 1)
    else if b = byteOf '`' then
      let rest ← require (fromByte? source (i + 1))
      match findChar? '`' rest with
      | none => outcome (.error (.parse i .unterminatedRawString))
      | some length => actionEnd source opening start (i + length + 2)
    else if b = byteOf '}' then
      let rest ← require (fromByte? source i)
      if ['}', '}'].isPrefixOf rest then
        let trims ← endsWithMarker (utf8Bytes source) start i
        return (if trims then i - 1 else i, i + 2, trims)
      else actionEnd source opening start (i + 1)
    else actionEnd source opening start (i + 1)
  else outcome (.error (.parse opening .unclosedAction))
termination_by (utf8Bytes source).length - i
decreasing_by
  · have := le_of_closingQuote _hquote
    omega
  all_goals omega

/-- The action whose body begins at an offset. -/
def closeAction (source : List Char) (opening start : Nat) : Checked (Item × Nat × Bool) := do
  let (stop, next, trims) ← actionEnd source opening start start
  let body ← require (betweenBytes? source start stop)
  return (.action start body, next, trims)

/-! ## Quotes -/

theorem closingQuote_eq (bytes : List UInt8) (quote : UInt8) (i : Nat) :
    closingQuote bytes quote i =
      match bytes[i]? with
      | none => .error (.parse i .unterminatedString)
      | some b =>
        if b = byteOf '\n' then .error (.parse i .unterminatedString)
        else if b = byteOf '\\' then closingQuote bytes quote (i + 2)
        else if b = quote then .ok i
        else closingQuote bytes quote (i + 1) := by
  rw [closingQuote]
  split <;> rename_i hi <;> rw [hi]

/-- Inside a character that is neither the quote nor a backslash nor a line feed, and inside any character behind its first
byte, the search goes on to the end of the character. -/
theorem closingQuote_within {q c : Char} (hq : q.toNat < 128) (front rest : List Char) {k : Nat} (hk : k ≤ c.utf8Size)
    (h : 0 < k ∨ c ≠ '\n' ∧ c ≠ '\\' ∧ c ≠ q) :
    closingQuote (utf8Bytes (front ++ c :: rest)) (byteOf q) (utf8Length front + k) =
      closingQuote (utf8Bytes (front ++ c :: rest)) (byteOf q) (utf8Length front + c.utf8Size) := by
  induction hn : c.utf8Size - k generalizing k with
  | zero => rw [show k = c.utf8Size by omega]
  | succ n ih =>
    have hlt : k < c.utf8Size := by omega
    obtain ⟨b, hb, hascii⟩ := exists_byte front c rest hlt
    have hne : ∀ a : Char, a.toNat < 128 → (0 < k ∨ c ≠ a) → b ≠ byteOf a := by
      intro a ha hor hba
      obtain ⟨rfl, hca⟩ := (hascii a ha).mp hba
      rcases hor with hpos | hne
      · exact absurd hpos (Nat.lt_irrefl 0)
      · exact hne hca
    have hline := hne '\n' (by decide) (h.imp_right And.left)
    have hslash := hne '\\' (by decide) (h.imp_right fun h => h.2.1)
    have hquote := hne q hq (h.imp_right fun h => h.2.2)
    rw [closingQuote_eq, hb]
    simp only [if_neg hline, if_neg hslash, if_neg hquote]
    exact ih (k := k + 1) hlt (Or.inl (Nat.succ_pos k)) (by omega)

/-- Behind the front of a source, inside a literal, the search for the closing quote finds the quote at which the search for
the end of the action leaves the literal, or both searches fail alike. -/
inductive QuoteAgrees (q : Char) (source front s : List Char) : Prop where
  | found {u rest : List Char} : s = u ++ q :: rest → Item.Passes (.quoted q) (.quoted q) u →
      closingQuote (utf8Bytes source) (byteOf q) (utf8Length front) = .ok (utf8Length (front ++ u)) →
      QuoteAgrees q source front s
  | failed {e : Error} : closingQuote (utf8Bytes source) (byteOf q) (utf8Length front) = .error e →
      (∀ opening start taken, Item.closeAction opening start (utf8Length front) (.quoted q) taken s = .error e) →
      QuoteAgrees q source front s

/-- Both searches pass over a text and agree behind it. -/
theorem QuoteAgrees.append {q : Char} {source front v s : List Char} (h : QuoteAgrees q source (front ++ v) s)
    (hpasses : Item.Passes (.quoted q) (.quoted q) v)
    (hsearch : closingQuote (utf8Bytes source) (byteOf q) (utf8Length front) =
      closingQuote (utf8Bytes source) (byteOf q) (utf8Length (front ++ v))) : QuoteAgrees q source front (v ++ s) := by
  cases h with
  | @found u rest hs hu hfound =>
    have hrest : v ++ s = (v ++ u) ++ q :: rest := by rw [hs, List.append_assoc]
    exact .found hrest (hpasses.append hu) (by rw [hsearch, hfound, List.append_assoc])
  | failed herror hclose =>
    refine .failed (hsearch.trans herror) fun opening start taken => ?_
    rw [hpasses, ← utf8Length_append]
    exact hclose opening start _

/-- A backslash in a literal. The byte that it takes along is the first of the next character, if there is one. -/
theorem quoteAgrees_of_escape {q : Char} (hq : q = '"' ∨ q = '\'') {source front rest : List Char}
    (hsource : source = front ++ '\\' :: rest)
    (h : ∀ d after, rest = d :: after → QuoteAgrees q source (front ++ ['\\', d]) after) :
    QuoteAgrees q source front ('\\' :: rest) := by
  have hascii : q.toNat < 128 := by rcases hq with rfl | rfl <;> decide
  obtain ⟨b, hb, hbyte⟩ := exists_byte front '\\' rest (Char.utf8Size_pos _)
  rw [Nat.add_zero, ← hsource] at hb
  have hbslash : b = byteOf '\\' := (hbyte _ (by decide)).mpr ⟨rfl, rfl⟩
  have hskip : closingQuote (utf8Bytes source) (byteOf q) (utf8Length front) =
      closingQuote (utf8Bytes source) (byteOf q) (utf8Length (front ++ ['\\']) + 1) := by
    rw [closingQuote_eq, hb, hbslash, utf8Length_append]
    rfl
  cases rest with
  | nil =>
    have hend : (utf8Bytes source)[utf8Length (front ++ ['\\']) + 1]? = none := by
      rw [List.getElem?_eq_none_iff, length_utf8Bytes, hsource]
      exact Nat.le_succ _
    refine .failed (e := .parse (utf8Length (front ++ ['\\']) + 1) .unterminatedString) ?_ fun _ _ _ => ?_
    · rw [hskip, closingQuote_eq, hend]
    · rw [utf8Length_append]
      rfl
  | cons d rest =>
    have hrest : source = (front ++ ['\\']) ++ d :: rest := by rw [hsource, List.append_assoc]; rfl
    have hwithin := closingQuote_within hascii (front ++ ['\\']) rest d.utf8Size_pos (Or.inl Nat.one_pos)
    rw [← hrest] at hwithin
    refine (h d rest rfl).append (Item.passes_escape q d) ?_
    rw [hskip, hwithin]
    simp only [utf8Length_append, utf8Length_cons, utf8Length_nil, Nat.add_assoc, Nat.add_zero]

theorem quoteAgrees {q : Char} (hq : q = '"' ∨ q = '\'') {source front s : List Char} (hsource : source = front ++ s) :
    QuoteAgrees q source front s := by
  have hascii : q.toNat < 128 := by rcases hq with rfl | rfl <;> decide
  have hspecial : byteOf q ≠ byteOf '\n' ∧ byteOf q ≠ byteOf '\\' := by rcases hq with rfl | rfl <;> decide
  induction hn : s.length using Nat.strongRecOn generalizing front s with
  | ind n ih =>
    have hshorter : ∀ v after, s = v ++ after → v ≠ [] → QuoteAgrees q source (front ++ v) after := by
      intro v after hs hv
      have hlength := List.length_pos_iff.mpr hv
      refine ih after.length ?_ (by rw [hsource, hs, List.append_assoc]) rfl
      rw [← hn, hs, List.length_append]
      omega
    cases s with
    | nil =>
      have hlength : utf8Length source = utf8Length front := by rw [hsource, List.append_nil]
      have hend : (utf8Bytes source)[utf8Length front]? = none := by
        rw [List.getElem?_eq_none_iff, length_utf8Bytes]
        omega
      exact .failed (by rw [closingQuote_eq, hend]) fun _ _ _ => rfl
    | cons c rest =>
      obtain ⟨b, hb, hbyte⟩ := exists_byte front c rest c.utf8Size_pos
      rw [Nat.add_zero, ← hsource] at hb
      by_cases hline : c = '\n'
      · have hbline : b = byteOf '\n' := (hbyte _ (by decide)).mpr ⟨rfl, hline⟩
        refine .failed (e := .parse (utf8Length front) .unterminatedString) ?_ fun opening start taken => ?_
        · rw [closingQuote_eq, hb]
          exact if_pos hbline
        · rw [Item.closeAction, if_neg (by simp), if_pos ⟨rfl, hline⟩]
      by_cases hslash : c = '\\'
      · subst hslash
        refine quoteAgrees_of_escape hq hsource fun d after hrest => hshorter ['\\', d] after ?_ (List.cons_ne_nil _ _)
        rw [hrest]
        rfl
      by_cases hquote : c = q
      · have hbquote : b = byteOf q := (hbyte q hascii).mpr ⟨rfl, hquote⟩
        have hrest : c :: rest = [] ++ q :: rest := by rw [hquote]; rfl
        refine .found hrest (Item.Passes.nil _) ?_
        rw [closingQuote_eq, hb, hbquote, List.append_nil]
        simp only [if_neg hspecial.1, if_neg hspecial.2, if_true]
      · have hagrees := hshorter [c] rest rfl (List.cons_ne_nil c [])
        refine hagrees.append (Item.passes_within_quotes hslash hquote hline) ?_
        have hwithin := closingQuote_within hascii front rest (Nat.zero_le c.utf8Size) (Or.inr ⟨hline, hslash, hquote⟩)
        rw [← hsource] at hwithin
        rwa [utf8Length_append]

/-! ## Actions -/

theorem actionEnd_of_byte {source : List Char} {i : Nat} {b : UInt8} (hb : (utf8Bytes source)[i]? = some b)
    (opening start : Nat) :
    actionEnd source opening start i =
      if b = byteOf '"' ∨ b = byteOf '\'' then
        outcome (closingQuote (utf8Bytes source) b (i + 1)) >>= fun j => actionEnd source opening start (j + 1)
      else if b = byteOf '`' then do
        let rest ← require (fromByte? source (i + 1))
        match findChar? '`' rest with
        | none => outcome (.error (.parse i .unterminatedRawString))
        | some length => actionEnd source opening start (i + length + 2)
      else if b = byteOf '}' then do
        let rest ← require (fromByte? source i)
        if ['}', '}'].isPrefixOf rest then
          let trims ← endsWithMarker (utf8Bytes source) start i
          return (if trims then i - 1 else i, i + 2, trims)
        else actionEnd source opening start (i + 1)
      else actionEnd source opening start (i + 1) := by
  have hi : i < (utf8Bytes source).length := (List.getElem?_eq_some_iff.mp hb).1
  rw [actionEnd, dif_pos hi, hb, require_some, outcome_ok_bind]
  split
  · split <;> rename_i hquote <;> rw [hquote] <;> rfl
  · rfl

theorem actionEnd_of_end {source : List Char} {i : Nat} (hi : (utf8Bytes source).length ≤ i) (opening start : Nat) :
    actionEnd source opening start i = outcome (.error (.parse opening .unclosedAction)) := by
  rw [actionEnd, dif_neg (Nat.not_lt.mpr hi)]

/-- Behind the first byte of a character the search for the end of an action goes on to the end of the character. -/
theorem actionEnd_within {source front rest : List Char} {c : Char} (hsource : source = front ++ c :: rest)
    (opening start : Nat) {k : Nat} (hpos : 0 < k) (hk : k ≤ c.utf8Size) :
    actionEnd source opening start (utf8Length front + k) =
      actionEnd source opening start (utf8Length front + c.utf8Size) := by
  induction hn : c.utf8Size - k generalizing k with
  | zero => rw [show k = c.utf8Size by omega]
  | succ n ih =>
    have hlt : k < c.utf8Size := by omega
    obtain ⟨b, hb, hascii⟩ := exists_byte front c rest hlt
    have hne : ∀ a : Char, a.toNat < 128 → b ≠ byteOf a := by
      intro a ha hba
      obtain ⟨rfl, -⟩ := (hascii a ha).mp hba
      exact Nat.lt_irrefl 0 hpos
    rw [← hsource] at hb
    have hquote : ¬(b = byteOf '"' ∨ b = byteOf '\'') := by
      rintro (h | h)
      · exact hne '"' (by decide) h
      · exact hne '\'' (by decide) h
    rw [actionEnd_of_byte hb, if_neg hquote, if_neg (hne '`' (by decide)), if_neg (hne '}' (by decide))]
    exact ih (k := k + 1) (Nat.succ_pos k) hlt (by omega)

/-- The last byte of a character is that of a blank exactly if the character is one. -/
theorem isBlank_ofNat {b : UInt8} {c : Char} (h : ∀ a : Char, a.toNat < 128 → (b = byteOf a ↔ c = a)) :
    isBlank (Char.ofNat b.toNat) = isBlank c := by
  have hiff : ∀ a : Char, a.toNat < 128 → (Char.ofNat b.toNat = a ↔ c = a) := fun a ha =>
    (ofNat_toNat_eq_iff ha b).trans (h a ha)
  rw [Bool.eq_iff_iff]
  simp only [isBlank, Bool.or_eq_true, beq_iff_eq]
  rw [hiff ' ' (by decide), hiff '\t' (by decide), hiff '\r' (by decide), hiff '\n' (by decide)]

/-- A single character before the closing braces is no trim marker, also where it takes several bytes. -/
theorem endsWithMarker_singleton (base s : List Char) (last : Char) :
    endsWithMarker (utf8Bytes (base ++ last :: s)) (utf8Length base) (utf8Length base + last.utf8Size) =
      outcome (.ok false) := by
  rw [endsWithMarker]
  split
  · rename_i hle
    obtain ⟨b, hb, hascii⟩ := exists_lastByte base last s
    have hdash : ¬b = byteOf '-' := by
      intro hbdash
      rw [(hascii '-' (by decide)).mp hbdash, show '-'.utf8Size = 1 from rfl] at hle
      omega
    rw [hb, require_some, outcome_ok_bind, if_neg hdash]
    rfl
  · rfl

/-- The last two characters before the closing braces are a trim marker exactly if they are a blank and a dash. -/
theorem endsWithMarker_pair (base before s : List Char) (c last : Char) :
    endsWithMarker (utf8Bytes (base ++ before ++ c :: last :: s)) (utf8Length base)
        (utf8Length (base ++ before ++ [c]) + last.utf8Size) =
      outcome (.ok (decide (last = '-' ∧ isBlank c = true))) := by
  have hlast : base ++ before ++ c :: last :: s = (base ++ before ++ [c]) ++ last :: s := by simp
  have hc := c.utf8Size_pos
  have hle : utf8Length base + 2 ≤ utf8Length (base ++ before ++ [c]) + last.utf8Size := by
    have hlastSize := last.utf8Size_pos
    simp only [utf8Length_append, utf8Length_cons, utf8Length_nil]
    omega
  obtain ⟨b, hb, hascii⟩ := exists_lastByte (base ++ before ++ [c]) last s
  rw [endsWithMarker, if_pos hle, hlast, hb, require_some, outcome_ok_bind]
  by_cases hdash : last = '-'
  · subst hdash
    obtain ⟨b', hb', hascii'⟩ := exists_lastByte (base ++ before) c ('-' :: s)
    have hbefore : utf8Length (base ++ before ++ [c]) + '-'.utf8Size - 2 =
        utf8Length (base ++ before) + c.utf8Size - 1 := by
      rw [utf8Length_append _ [c], show '-'.utf8Size = 1 from rfl, utf8Length_cons, utf8Length_nil]
      omega
    rw [if_pos ((hascii '-' (by decide)).mpr rfl), hbefore, ← hlast, hb', require_some, outcome_ok_bind,
      isBlank_ofNat hascii']
    simp only [true_and, Bool.decide_eq_true]
    rfl
  · rw [if_neg fun hbdash => hdash ((hascii '-' (by decide)).mp hbdash), decide_eq_false fun h => hdash h.1]
    rfl

/-- The bytes before the closing braces tell whether a right trim marker ends the body. -/
theorem endsWithMarker_eq {source base taken s : List Char} (hsource : source = base ++ taken.reverse ++ s) :
    endsWithMarker (utf8Bytes source) (utf8Length base) (utf8Length (base ++ taken.reverse)) =
      outcome (.ok (Item.bodyOf taken).2) := by
  match taken with
  | [] =>
    rw [endsWithMarker, if_neg (by simp)]
    rfl
  | [last] =>
    have hwhole : source = base ++ last :: s := by rw [hsource, List.append_assoc]; rfl
    have hlength : utf8Length (base ++ [last].reverse) = utf8Length base + last.utf8Size := by simp
    rw [hwhole, hlength, endsWithMarker_singleton]
    rfl
  | last :: c :: before =>
    have hwhole : source = base ++ before.reverse ++ c :: last :: s := by rw [hsource]; simp
    have hlength : utf8Length (base ++ (last :: c :: before).reverse) =
        utf8Length (base ++ before.reverse ++ [c]) + last.utf8Size := by simp [Nat.add_assoc]
    rw [hwhole, hlength, endsWithMarker_pair, Item.bodyOf]
    split
    · rename_i hmarker
      rw [decide_eq_true hmarker]
    · rename_i hmarker
      rw [decide_eq_false hmarker]

/-- The number of bytes of the body of an action. -/
def bodyLength : Item → Nat
  | .action _ body => utf8Length body
  | _ => 0

/-- The body of an action ends before the dash of its right trim marker. -/
theorem length_bodyOf (base taken : List Char) :
    (if (Item.bodyOf taken).2 then utf8Length (base ++ taken.reverse) - 1 else utf8Length (base ++ taken.reverse)) =
      utf8Length base + utf8Length (Item.bodyOf taken).1 := by
  rcases Item.bodyOf_cases taken with ⟨c, before, rfl, hbody⟩ | hbody <;> rw [hbody]
  · have hdash : utf8Length ['-'] = 1 := rfl
    rw [if_pos rfl, List.reverse_cons, utf8Length_append, utf8Length_append, hdash]
    exact Nat.add_sub_cancel _ 1
  · simp

/-- A raw string without an end. -/
theorem closeAction_of_raw {s : List Char} (hs : '`' ∉ s) (opening start offset quote : Nat) (taken : List Char) :
    Item.closeAction opening start offset (.raw quote) taken s = .error (.parse quote .unterminatedRawString) := by
  induction s generalizing offset taken with
  | nil => rfl
  | cons c s ih =>
    have hc : c ≠ '`' := fun h => hs (h ▸ List.mem_cons_self)
    have hnext : (Item.Literal.raw quote).next offset c = .raw quote := by simp [Item.Literal.next, hc]
    rw [Item.closeAction, if_neg (by simp), if_neg (by simp [Item.Literal.endsWithLine]), hnext]
    exact ih (fun h => hs (List.mem_cons_of_mem c h)) _ _

/-- The first place of a character in a text. -/
theorem findChar?_append {c : Char} {u : List Char} (hu : c ∉ u) (rest : List Char) :
    findChar? c (u ++ c :: rest) = some (utf8Length u) := by
  have hne : ∀ d ∈ u, (d != c) = true := by
    intro d hd
    rw [bne_iff_ne]
    rintro rfl
    exact hu hd
  have htake : (u ++ c :: rest).takeWhile (· != c) = u := by
    rw [List.takeWhile_append_of_pos hne, List.takeWhile_cons_of_neg (by simp), List.append_nil]
  rw [findChar?, if_pos (by simp), htake]

/-- Behind the part of a source before the body of an action and the part of the body that was taken, the end of the action
is found in bytes where it is found in characters. -/
def ActionAgrees (source base : List Char) (opening : Nat) (taken s : List Char) : Prop :=
  actionEnd source opening (utf8Length base) (utf8Length (base ++ taken.reverse)) =
    outcome ((Item.closeAction opening (utf8Length base) (utf8Length (base ++ taken.reverse)) .outside taken s).map
      fun found => (utf8Length base + bodyLength found.item, found.offset, found.trims))

section

variable {source base taken : List Char} {opening : Nat}

/-- Both searches go on behind a text and agree there. -/
theorem ActionAgrees.append {v s : List Char} (h : ActionAgrees source base opening (v.reverse ++ taken) s)
    (hend : actionEnd source opening (utf8Length base) (utf8Length (base ++ taken.reverse)) =
      actionEnd source opening (utf8Length base) (utf8Length (base ++ taken.reverse) + utf8Length v))
    (hclose : Item.closeAction opening (utf8Length base) (utf8Length (base ++ taken.reverse)) .outside taken (v ++ s) =
      Item.closeAction opening (utf8Length base) (utf8Length (base ++ taken.reverse) + utf8Length v) .outside
        (v.reverse ++ taken) s) :
    ActionAgrees source base opening taken (v ++ s) := by
  have htaken : utf8Length (base ++ (v.reverse ++ taken).reverse) = utf8Length (base ++ taken.reverse) + utf8Length v := by
    rw [List.reverse_append, List.reverse_reverse, ← List.append_assoc, utf8Length_append]
  rw [ActionAgrees, htaken] at h
  rw [ActionAgrees, hend, hclose, h]

/-- A literal in quotes. -/
theorem actionAgrees_of_quote {c : Char} {rest : List Char} (hc : c = '"' ∨ c = '\'')
    (hsource : source = base ++ taken.reverse ++ c :: rest)
    (h : ∀ v after, c :: rest = v ++ after → v ≠ [] → ActionAgrees source base opening (v.reverse ++ taken) after) :
    ActionAgrees source base opening taken (c :: rest) := by
  obtain ⟨b, hb, hascii⟩ := exists_byte (base ++ taken.reverse) c rest c.utf8Size_pos
  rw [Nat.add_zero, ← hsource] at hb
  have hbyte : b = byteOf c := (hascii c (by rcases hc with rfl | rfl <;> decide)).mpr ⟨rfl, rfl⟩
  have hbquote : b = byteOf '"' ∨ b = byteOf '\'' := by rcases hc with rfl | rfl <;> simp [hbyte]
  have hone : utf8Length [c] = 1 := by rcases hc with rfl | rfl <;> rfl
  have hend := actionEnd_of_byte hb opening (utf8Length base)
  rw [if_pos hbquote, hbyte, ← hone, ← utf8Length_append] at hend
  have hinside : source = (base ++ taken.reverse ++ [c]) ++ rest := by rw [hsource, List.append_assoc _ [c]]; rfl
  cases quoteAgrees hc hinside with
  | @found u after hrest hu hquote =>
    have hv : c :: rest = (c :: (u ++ [c])) ++ after := by rw [hrest]; simp
    have hpasses : Item.Passes .outside .outside (c :: (u ++ [c])) :=
      (Item.passes_opening_quote hc).append (hu.append (Item.passes_closing_quote hc))
    rw [hquote, outcome_ok_bind, ← utf8Length_append] at hend
    rw [hv]
    refine (h _ after hv (List.cons_ne_nil c _)).append ?_ (hpasses _ _ _ _ _)
    rw [hend, ← utf8Length_append]
    simp only [List.append_assoc, List.cons_append, List.nil_append]
  | failed herror hclose =>
    rw [herror, outcome_error_bind] at hend
    rw [ActionAgrees, hend, ← List.singleton_append, Item.passes_opening_quote hc, ← utf8Length_append, hclose]
    rfl

/-- A raw string. -/
theorem actionAgrees_of_raw {rest : List Char} (hsource : source = base ++ taken.reverse ++ '`' :: rest)
    (h : ∀ v after, '`' :: rest = v ++ after → v ≠ [] → ActionAgrees source base opening (v.reverse ++ taken) after) :
    ActionAgrees source base opening taken ('`' :: rest) := by
  obtain ⟨b, hb, hascii⟩ := exists_byte (base ++ taken.reverse) '`' rest (Char.utf8Size_pos _)
  rw [Nat.add_zero, ← hsource] at hb
  obtain rfl : b = byteOf '`' := (hascii '`' (by decide)).mpr ⟨rfl, rfl⟩
  have hone : utf8Length ['`'] = 1 := rfl
  have hend := actionEnd_of_byte hb opening (utf8Length base)
  have hinside : source = (base ++ taken.reverse ++ ['`']) ++ rest := by rw [hsource, List.append_assoc _ ['`']]; rfl
  have hpart : fromByte? source (utf8Length (base ++ taken.reverse) + 1) = some rest := by
    rw [← hone, ← utf8Length_append, hinside, fromByte?_append]
  rw [if_neg (by decide), if_pos rfl, hpart, require_some, outcome_ok_bind] at hend
  by_cases hmem : '`' ∈ rest
  · obtain ⟨u, after, rfl, hu⟩ := List.eq_append_cons_of_mem hmem
    have hv : '`' :: (u ++ '`' :: after) = ('`' :: (u ++ ['`'])) ++ after := by simp
    rw [findChar?_append hu] at hend
    rw [hv]
    refine (h _ after hv (List.cons_ne_nil _ _)).append ?_ (Item.passes_raw (fun c hc heq => hu (heq ▸ hc)) _ _ _ _ _)
    rw [hend]
    simp only [utf8Length_append, utf8Length_cons, utf8Length_nil, show '`'.utf8Size = 1 from rfl]
    congr 1
    omega
  · have hnone : findChar? '`' rest = none := if_neg hmem
    rw [hnone] at hend
    rw [ActionAgrees, hend, Item.closeAction, if_neg (by simp), if_neg (by simp [Item.Literal.endsWithLine])]
    have hnext : Item.Literal.outside.next (utf8Length (base ++ taken.reverse)) '`' =
        .raw (utf8Length (base ++ taken.reverse)) := rfl
    rw [hnext, closeAction_of_raw hmem]
    rfl

/-- A closing brace. -/
theorem actionAgrees_of_brace {rest : List Char} (hsource : source = base ++ taken.reverse ++ '}' :: rest)
    (h : ∀ v after, '}' :: rest = v ++ after → v ≠ [] → ActionAgrees source base opening (v.reverse ++ taken) after) :
    ActionAgrees source base opening taken ('}' :: rest) := by
  obtain ⟨b, hb, hascii⟩ := exists_byte (base ++ taken.reverse) '}' rest (Char.utf8Size_pos _)
  rw [Nat.add_zero, ← hsource] at hb
  obtain rfl : b = byteOf '}' := (hascii '}' (by decide)).mpr ⟨rfl, rfl⟩
  have hend := actionEnd_of_byte hb opening (utf8Length base)
  have hpart : fromByte? source (utf8Length (base ++ taken.reverse)) = some ('}' :: rest) := by
    rw [hsource, fromByte?_append]
  rw [if_neg (by decide), if_neg (by decide), if_pos rfl, hpart, require_some, outcome_ok_bind] at hend
  have hcloses : ['}', '}'].isPrefixOf ('}' :: rest) = true ↔ rest.head? = some '}' := by
    cases rest with
    | nil => decide
    | cons d rest =>
      have hd : d = '}' ↔ '}' = d := eq_comm
      simp [List.isPrefixOf, hd]
  by_cases hhead : rest.head? = some '}'
  · rw [if_pos (hcloses.mpr hhead), endsWithMarker_eq hsource, outcome_ok_bind, length_bodyOf] at hend
    rw [ActionAgrees, hend, Item.closeAction, if_pos ⟨rfl, rfl, hhead⟩]
    rfl
  · rw [if_neg fun hprefix => hhead (hcloses.mp hprefix)] at hend
    have hagrees := h ['}'] rest rfl (List.cons_ne_nil _ _)
    refine hagrees.append hend ?_
    rw [List.singleton_append, Item.closeAction, if_neg fun hall => hhead hall.2.2,
      if_neg (by simp [Item.Literal.endsWithLine])]
    rfl

/-- A character that means nothing to the search, of however many bytes. -/
theorem actionAgrees_of_plain {c : Char} {rest : List Char} (hc : Item.isPlain c = true)
    (hsource : source = base ++ taken.reverse ++ c :: rest)
    (h : ∀ v after, c :: rest = v ++ after → v ≠ [] → ActionAgrees source base opening (v.reverse ++ taken) after) :
    ActionAgrees source base opening taken (c :: rest) := by
  obtain ⟨b, hb, hascii⟩ := exists_byte (base ++ taken.reverse) c rest c.utf8Size_pos
  rw [Nat.add_zero, ← hsource] at hb
  have hpasses := Item.passes_plain hc
  simp only [Item.isPlain, Bool.and_eq_true, bne_iff_ne] at hc
  obtain ⟨⟨⟨hdouble, hsingle⟩, hraw⟩, hbrace⟩ := hc
  have hne : ∀ a : Char, a.toNat < 128 → c ≠ a → b ≠ byteOf a := fun a ha hca hba => hca ((hascii a ha).mp hba).2
  have hquote : ¬(b = byteOf '"' ∨ b = byteOf '\'') := by
    rintro (hba | hba)
    · exact hne '"' (by decide) hdouble hba
    · exact hne '\'' (by decide) hsingle hba
  have hend := actionEnd_of_byte hb opening (utf8Length base)
  rw [if_neg hquote, if_neg (hne '`' (by decide) hraw), if_neg (hne '}' (by decide) hbrace),
    actionEnd_within hsource opening _ Nat.one_pos c.utf8Size_pos] at hend
  exact (h [c] rest rfl (List.cons_ne_nil c [])).append hend (hpasses _ _ _ _ _)

theorem actionAgrees {s : List Char} (hsource : source = base ++ taken.reverse ++ s) :
    ActionAgrees source base opening taken s := by
  induction hn : s.length using Nat.strongRecOn generalizing taken s with
  | ind n ih =>
    cases s with
    | nil =>
      have hlength : utf8Length source = utf8Length (base ++ taken.reverse) := by rw [hsource, List.append_nil]
      rw [ActionAgrees, actionEnd_of_end (by rw [length_utf8Bytes]; omega)]
      rfl
    | cons c rest =>
      have hrest : ∀ v after, c :: rest = v ++ after → v ≠ [] →
          ActionAgrees source base opening (v.reverse ++ taken) after := by
        intro v after hs hv
        refine ih after.length ?_ ?_ rfl
        · have := List.length_pos_iff.mpr hv
          rw [← hn, hs, List.length_append]
          omega
        · rw [hsource, hs]
          simp
      by_cases hquote : c = '"' ∨ c = '\''
      · exact actionAgrees_of_quote hquote hsource hrest
      by_cases hraw : c = '`'
      · subst hraw
        exact actionAgrees_of_raw hsource hrest
      by_cases hbrace : c = '}'
      · subst hbrace
        exact actionAgrees_of_brace hsource hrest
      · rw [not_or] at hquote
        exact actionAgrees_of_plain (by simp [Item.isPlain, hquote, hraw, hbrace]) hsource hrest

end

/-- What is found, without the text behind it. -/
def foundAt (found : Item.Found) : Item × Nat × Bool :=
  (found.item, found.offset, found.trims)

/-- An action is found in bytes where it is found in characters, and its body is a part of the source. -/
theorem closeAction_eq {source base s : List Char} (hsource : source = base ++ s) (opening : Nat) :
    closeAction source opening (utf8Length base) =
      outcome ((Item.closeAction opening (utf8Length base) (utf8Length base) .outside [] s).map foundAt) := by
  have hagrees : ActionAgrees source base opening [] s := actionAgrees (by simpa using hsource)
  rw [ActionAgrees, List.reverse_nil, List.append_nil] at hagrees
  rw [closeAction, hagrees]
  cases hclose : Item.closeAction opening (utf8Length base) (utf8Length base) .outside [] s with
  | error e => rfl
  | ok found =>
    obtain ⟨u, rfl, hitem, -, -⟩ := Item.closeAction_eq_ok hclose
    rw [List.append_nil] at hitem
    obtain ⟨dash, hu⟩ := Item.bodyOf_prefix u.reverse
    rw [List.reverse_reverse] at hu
    have hbody : betweenBytes? source (utf8Length base) (utf8Length base + bodyLength found.item) =
        some (Item.bodyOf u.reverse).1 := by
      have hwhole : source = base ++ (Item.bodyOf u.reverse).1 ++ (dash ++ '}' :: '}' :: found.rest) := by
        rw [hsource, List.append_assoc, ← List.append_assoc _ dash, hu]
      rw [hitem, bodyLength, ← utf8Length_append, hwhole]
      exact betweenBytes?_append _ _ _
    show require (betweenBytes? source (utf8Length base) (utf8Length base + bodyLength found.item)) >>= _ = _
    rw [hbody, require_some, outcome_ok_bind, ← hitem]
    rfl

end Bytes

end QueryTemplate
