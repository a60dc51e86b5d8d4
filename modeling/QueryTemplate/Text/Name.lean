import QueryTemplate.Text.Alphabetic
import QueryTemplate.Text.Numeric

/-!
# Names

Field names, function names and the part of a variable name after its dollar sign.
-/

namespace QueryTemplate

/-- A character that may begin a name: a letter or an underscore. -/
def isNameStart (c : Char) : Bool :=
  isAlphabetic c || c == '_'

/-- A character that may continue a name: a letter, a number or an underscore. -/
def isNameChar (c : Char) : Bool :=
  isAlphabetic c || isNumeric c || c == '_'

/-- What begins a name may also continue it. -/
theorem isNameChar_of_isNameStart {c : Char} (h : isNameStart c = true) : isNameChar c = true := by
  simp only [isNameStart, Bool.or_eq_true] at h
  simp only [isNameChar, Bool.or_eq_true]
  exact h.elim (fun ha => .inl (.inl ha)) .inr

end QueryTemplate
