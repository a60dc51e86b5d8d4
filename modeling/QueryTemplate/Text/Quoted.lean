import QueryTemplate.Text.Hidden

/-!
# Quoted text

Characters and strings between quotes, as messages show them. The quote itself and the backslash are written with a
backslash, a few controls by a letter, and every other hidden character by its code point in hexadecimal.
-/

namespace QueryTemplate

/-- A character by its code point: `\u` and the hexadecimal digits in braces. -/
def codePointText (c : Char) : List Char :=
  ['\\', 'u', '{'] ++ Nat.toDigits 16 c.toNat ++ ['}']

/-- A character as it stands between two `quote` characters. -/
def quotedChar (quote c : Char) : List Char :=
  if c = '\x00' then ['\\', '0']
  else if c = '\t' then ['\\', 't']
  else if c = '\r' then ['\\', 'r']
  else if c = '\n' then ['\\', 'n']
  else if c = '\\' ∨ c = quote then ['\\', c]
  else if isHidden c then codePointText c
  else [c]

/-- A text between `quote` characters. -/
def quoted (quote : Char) (s : List Char) : String :=
  String.ofList (quote :: s.flatMap (quotedChar quote) ++ [quote])

/-- A character between single quotes. -/
def quoteChar (c : Char) : String :=
  quoted '\'' [c]

/-- A string between double quotes. -/
def quoteString (s : String) : String :=
  quoted '"' s.toList

/-- A character that needs no escape stands for itself. -/
theorem quotedChar_of_plain {quote c : Char} (hidden : isHidden c = false) (slash : c ≠ '\\') (same : c ≠ quote) :
    quotedChar quote c = [c] := by
  have h0 : c ≠ '\x00' := by rintro rfl; exact absurd hidden (by decide)
  have ht : c ≠ '\t' := by rintro rfl; exact absurd hidden (by decide)
  have hr : c ≠ '\r' := by rintro rfl; exact absurd hidden (by decide)
  have hn : c ≠ '\n' := by rintro rfl; exact absurd hidden (by decide)
  simp [quotedChar, h0, ht, hr, hn, slash, same, hidden]

end QueryTemplate
