/-!
# Blanks

The characters that separate the words of an action and that a trim marker removes: space, tab, carriage return and line
feed. No other white space counts, so a no-break space is text like any other.
-/

namespace QueryTemplate

/-- Space, tab, carriage return or line feed. -/
def isBlank (c : Char) : Bool :=
  c == ' ' || c == '\t' || c == '\r' || c == '\n'

/-- A text without its leading blanks. -/
def trimStart (s : List Char) : List Char :=
  s.dropWhile isBlank

/-- A text without its trailing blanks. -/
def trimEnd (s : List Char) : List Char :=
  (s.reverse.dropWhile isBlank).reverse

/-- Trimming at the start never lengthens a text. -/
theorem length_trimStart_le (s : List Char) : (trimStart s).length ≤ s.length :=
  (List.dropWhile_suffix isBlank).length_le

/-- Trimming at the end leaves a prefix of the text. -/
theorem trimEnd_prefix (s : List Char) : trimEnd s <+: s := by
  rw [trimEnd, ← List.reverse_suffix, List.reverse_reverse]
  exact List.dropWhile_suffix isBlank

end QueryTemplate
