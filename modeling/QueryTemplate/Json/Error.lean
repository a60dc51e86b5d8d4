import QueryTemplate.Number.Digits
import QueryTemplate.Text.Reader

/-!
# Errors of JSON

Why a value has no JSON. The reason that an unbindable value gives may end with a position, ` at line 3 column 7`, which
the message states anew: the numbers lose their leading zeros, and line zero stands for no position and is left out.
-/

namespace QueryTemplate

/-- Why a value has no JSON. -/
inductive JsonError where
  /-- A map key that is no text, boolean or number. -/
  | keyNotText
  | keyNotFinite
  /-- A value that cannot be bound, and why. -/
  | unbindable (reason : String)
deriving DecidableEq

namespace JsonError

/-- What stands before the last occurrence of a part in a text, and what stands after it. -/
def splitAtLast? (part : List Char) : List Char → Option (List Char × List Char)
  | [] => none
  | c :: rest =>
    match splitAtLast? part rest with
    | some (before, after) => some (c :: before, after)
    | none => if part.isPrefixOf (c :: rest) then some ([], (c :: rest).drop part.length) else none

/-- A number of 64 bits. -/
def positionNumber : Reader Nat := do
  let digits ← Reader.takeWhile Char.isDigit
  Reader.ofOption ((readDigits? 10 digits).filter (· < UInt64.size))

/-- The line and the column of a position. -/
def positionNumbers : Reader (Nat × Nat) := do
  let line ← positionNumber
  Reader.text " column ".toList
  let column ← positionNumber
  return (line, column)

/-- The text of a position; line zero has none. -/
def positionText (line column : Nat) : String :=
  if line = 0 then "" else " at line " ++ toString line ++ " column " ++ toString column

/-- A reason with the position at its end, if there is one, stated anew. -/
def restated (reason : String) : String :=
  match splitAtLast? " at line ".toList reason.toList with
  | none => reason
  | some (before, after) =>
    match positionNumbers after with
    | .done (line, column) [] => String.ofList before ++ positionText line column
    | _ => reason

def message : JsonError → String
  | .keyNotText => "key must be a string"
  | .keyNotFinite => "float key must be finite (got NaN or +/-inf)"
  | .unbindable reason => restated reason

/-- A split loses nothing but the part. -/
theorem eq_of_splitAtLast? {part s before after : List Char} (h : splitAtLast? part s = some (before, after)) :
    s = before ++ part ++ after := by
  induction s generalizing before with
  | nil => cases h
  | cons c rest ih =>
    rw [splitAtLast?] at h
    split at h
    · rename_i b a hb
      cases h
      rw [ih hb]
      rfl
    · split at h
      · rename_i hpart
        obtain ⟨t, ht⟩ := List.isPrefixOf_iff_prefix.1 hpart
        cases h
        rw [← ht, List.drop_left, List.nil_append]
      · cases h

/-- A reason without a position is the message. -/
theorem restated_of_none {reason : String} (h : splitAtLast? " at line ".toList reason.toList = none) :
    restated reason = reason := by
  simp only [restated, h]

end JsonError

end QueryTemplate
