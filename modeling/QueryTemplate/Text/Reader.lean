/-!
# Readers

A reader reads a prefix of a text. It may succeed with a value and the rest of the text, it may miss, so that another
reader can be tried on the same text, or it may fail for good. Misses and failures tell where they happened, as the rest
of the text at that place.
-/

namespace QueryTemplate

/-- The outcome of reading a prefix of a text. -/
inductive Reading (α : Type) where
  | done (value : α) (rest : List Char)
  /-- Nothing of this form stands here. -/
  | miss (place : List Char)
  /-- Something of this form begins here but is malformed. -/
  | fail (place : List Char)
deriving DecidableEq

/-- Reads a prefix of a text. -/
def Reader (α : Type) :=
  List Char → Reading α

namespace Reader

variable {α β : Type}

/-- Reads nothing. -/
def succeed (a : α) : Reader α :=
  fun s => .done a s

/-- Reads one thing after another. -/
def andThen (p : Reader α) (q : α → Reader β) : Reader β :=
  fun s =>
    match p s with
    | .done a rest => q a rest
    | .miss place => .miss place
    | .fail place => .fail place

instance : Monad Reader where
  pure := succeed
  bind := andThen

/-- The first of some readers that does not miss. If all miss, the last one tells where. -/
def firstOf : List (Reader α) → Reader α
  | [] => fun s => .miss s
  | p :: ps => fun s =>
    match p s with
    | .miss place => if ps.isEmpty then .miss place else firstOf ps s
    | reading => reading

/-- Reads something that may be absent. -/
def optional (p : Reader α) : Reader (Option α) :=
  fun s =>
    match p s with
    | .done a rest => .done (some a) rest
    | .miss _ => .done none s
    | .fail place => .fail place

/-- Reads as often as possible, but not more often than the bound says. -/
def manyWithin (p : Reader α) : Nat → Reader (List α)
  | 0 => fun s =>
    match p s with
    | .done _ _ => .miss s
    | .miss _ => .done [] s
    | .fail place => .fail place
  | bound + 1 => fun s =>
    match p s with
    | .done a rest =>
      match manyWithin p bound rest with
      | .done as after => .done (a :: as) after
      | .miss place => .miss place
      | .fail place => .fail place
    | .miss _ => .done [] s
    | .fail place => .fail place

/-- Reads as often as possible. What reads at least a character each time is read no more often than the text has
characters; something that reads nothing cannot be repeated, and misses. -/
def many (p : Reader α) : Reader (List α) :=
  fun s => manyWithin p s.length s

/-- Reads one character of a class. -/
def satisfy (p : Char → Bool) : Reader Char
  | [] => .miss []
  | c :: rest => if p c then .done c rest else .miss (c :: rest)

/-- Reads a given character. -/
def char (c : Char) : Reader Char :=
  satisfy (· == c)

/-- Reads a given text, and misses at the beginning where it does not stand as a whole. -/
def text (cs : List Char) : Reader Unit :=
  fun s => if cs.isPrefixOf s then .done () (s.drop cs.length) else .miss s

/-- Reads the characters of a class, as many as there are. -/
def takeWhile (p : Char → Bool) : Reader (List Char) :=
  fun s => .done (s.takeWhile p) (s.dropWhile p)

/-- Reads a given number of characters of a class, and misses at the beginning where there are not so many. -/
def exactly (p : Char → Bool) (n : Nat) : Reader (List Char) :=
  fun s => if (s.take n).length = n ∧ (s.take n).all p then .done (s.take n) (s.drop n) else .miss s

/-- Misses if a character of the class comes next, and reads nothing. -/
def notNext (p : Char → Bool) : Reader Unit
  | [] => .done () []
  | c :: rest => if p c then .miss (c :: rest) else .done () (c :: rest)

/-- Takes a value out of an option, missing without one. -/
def ofOption : Option α → Reader α
  | some a => succeed a
  | none => fun s => .miss s

/-- Reads something that stands for a value, and misses at the beginning if it stands for none. -/
def mapOption (p : Reader α) (f : α → Option β) : Reader β :=
  fun s =>
    match p s with
    | .done a rest =>
      match f a with
      | some b => .done b rest
      | none => .miss s
    | .miss place => .miss place
    | .fail place => .fail place

/-- Reads something together with its spelling. -/
def withSpelling (p : Reader α) : Reader (α × List Char) :=
  fun s =>
    match p s with
    | .done a rest => .done (a, s.take (s.length - rest.length)) rest
    | .miss place => .miss place
    | .fail place => .fail place

@[simp] theorem pure_eq (a : α) : (pure a : Reader α) = succeed a := rfl

@[simp] theorem bind_eq (p : Reader α) (q : α → Reader β) : (p >>= q) = p.andThen q := rfl

theorem andThen_of_done {p : Reader α} {q : α → Reader β} {s rest : List Char} {a : α} (h : p s = .done a rest) :
    p.andThen q s = q a rest := by
  simp [andThen, h]

/-- A reader that does not miss decides, whatever comes after it. -/
theorem firstOf_cons_of_done {p : Reader α} {ps : List (Reader α)} {s rest : List Char} {a : α}
    (h : p s = .done a rest) : firstOf (p :: ps) s = .done a rest := by
  simp [firstOf, h]

/-- After a reader that misses the next one is tried. -/
theorem firstOf_cons_of_miss {p q : Reader α} {ps : List (Reader α)} {s place : List Char} (h : p s = .miss place) :
    firstOf (p :: q :: ps) s = firstOf (q :: ps) s := by
  simp [firstOf, h]

/-- The text that was read and the rest make up the whole. -/
theorem withSpelling_of_append {p : Reader α} {a : α} {before rest : List Char}
    (h : p (before ++ rest) = .done a rest) : p.withSpelling (before ++ rest) = .done (a, before) rest := by
  simp [withSpelling, h]

/-- A larger bound changes nothing if every reading takes a character. -/
theorem manyWithin_eq_of_le {p : Reader α} (shorter : ∀ s a rest, p s = .done a rest → rest.length < s.length)
    {m n : Nat} {s : List Char} (hm : s.length ≤ m) (hn : s.length ≤ n) : manyWithin p m s = manyWithin p n s := by
  induction m generalizing n s with
  | zero =>
    have hs : s.length = 0 := by omega
    cases hp : p s with
    | done a rest =>
      have := shorter s a rest hp
      omega
    | miss place => cases n <;> simp [manyWithin, hp]
    | fail place => cases n <;> simp [manyWithin, hp]
  | succ m ih =>
    cases hp : p s with
    | done a rest =>
      have hlt := shorter s a rest hp
      cases n with
      | zero => omega
      | succ n => simp only [manyWithin, hp, ih (n := n) (s := rest) (by omega) (by omega)]
    | miss place => cases n <;> simp [manyWithin, hp]
    | fail place => cases n <;> simp [manyWithin, hp]

/-- A reading that takes a character is followed by the others. -/
theorem many_of_done {p : Reader α} (shorter : ∀ s a rest, p s = .done a rest → rest.length < s.length)
    {s rest : List Char} {a : α} (h : p s = .done a rest) :
    many p s = andThen (many p) (fun as => succeed (a :: as)) rest := by
  have hlt := shorter s a rest h
  obtain ⟨n, hn⟩ : ∃ n, s.length = n + 1 := ⟨s.length - 1, by omega⟩
  have hle : rest.length ≤ n := by omega
  simp only [many, hn, manyWithin, h, andThen, succeed]
  rw [manyWithin_eq_of_le shorter hle (Nat.le_refl _)]
  cases manyWithin p rest.length rest <;> rfl

/-- A miss ends the repetition. -/
theorem many_of_miss {p : Reader α} {s place : List Char} (h : p s = .miss place) : many p s = .done [] s := by
  cases hs : s.length <;> simp [many, hs, manyWithin, h]

/-- Reading a class of characters splits the text where the class ends. -/
theorem takeWhile_append (p : Char → Bool) {s rest : List Char} (all : ∀ c ∈ s, p c = true)
    (stop : ∀ c, rest.head? = some c → p c = false) : takeWhile p (s ++ rest) = .done s rest := by
  have htake : (s ++ rest).takeWhile p = s := by
    rw [List.takeWhile_append_of_pos all]
    cases rest with
    | nil => simp
    | cons c cs => simp [stop c rfl]
  have hdrop : (s ++ rest).dropWhile p = rest := by
    rw [List.dropWhile_append_of_pos all]
    cases rest with
    | nil => simp
    | cons c cs => simp [stop c rfl]
  simp [takeWhile, htake, hdrop]

end Reader

end QueryTemplate
