import QueryTemplate.Text.Utf8

/-!
# Boundaries between characters

An offset in bytes points between two characters of a text, or at one of its ends, if it is the length of what stands
before it (`IsBoundary`). These are the valid positions of a string (`isBoundary_toList`).
-/

namespace QueryTemplate

/-- The text can be cut at the offset. -/
def IsBoundary (s : List Char) (offset : Nat) : Prop :=
  ∃ before rest, s = before ++ rest ∧ offset = utf8Length before

/-- Between two parts of a text is a boundary. -/
theorem isBoundary_append (before rest : List Char) : IsBoundary (before ++ rest) (utf8Length before) :=
  ⟨before, rest, rfl, rfl⟩

/-- The end of a text is a boundary. -/
theorem isBoundary_end (s : List Char) : IsBoundary s (utf8Length s) :=
  ⟨s, [], (List.append_nil s).symm, rfl⟩

/-- No boundary lies behind the end. -/
theorem IsBoundary.le {s : List Char} {offset : Nat} (h : IsBoundary s offset) : offset ≤ utf8Length s := by
  obtain ⟨before, rest, rfl, rfl⟩ := h
  rw [utf8Length_append]
  exact Nat.le_add_right _ _

/-- A boundary of a part is a boundary of the whole, further on by what stands before the part. -/
theorem IsBoundary.within {s : List Char} {offset : Nat} (h : IsBoundary s offset) (before after : List Char) :
    IsBoundary (before ++ s ++ after) (utf8Length before + offset) := by
  obtain ⟨front, rest, rfl, rfl⟩ := h
  exact ⟨before ++ front, rest ++ after, by simp, (utf8Length_append before front).symm⟩

/-- The place at which a suffix begins is a boundary. -/
theorem isBoundary_offsetIn {s rest : List Char} (h : rest <:+ s) : IsBoundary s (offsetIn s rest) := by
  obtain ⟨before, rfl⟩ := h
  rw [offsetIn_append]
  exact isBoundary_append before rest

/-- The boundaries of the characters of a string are its valid positions. In particular none lies behind its end. -/
theorem isBoundary_toList {s : String} {offset : Nat} :
    IsBoundary s.toList offset ↔ (⟨offset⟩ : String.Pos.Raw).IsValid s := by
  rw [String.Pos.Raw.isValid_iff_exists_append]
  constructor
  · rintro ⟨before, rest, hs, rfl⟩
    refine ⟨String.ofList before, String.ofList rest, ?_, ?_⟩
    · rw [← String.ofList_append, ← hs, String.ofList_toList]
    · rw [String.rawEndPos, utf8ByteSize_ofList]
  · rintro ⟨before, rest, rfl, hoffset⟩
    refine ⟨before.toList, rest.toList, String.toList_append, ?_⟩
    rw [utf8Length_toList]
    exact congrArg String.Pos.Raw.byteIdx hoffset

end QueryTemplate
