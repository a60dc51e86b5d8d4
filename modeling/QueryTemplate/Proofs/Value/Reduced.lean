import Mathlib.Data.List.Flatten
import Mathlib.Data.List.Forall2
import QueryTemplate.Parameter.Conversion

/-!
# Values with parts left out

A value of which parts have been left out is shown by a shorter text (`Value.Reduced`). The text tells the two apart even
where only the text remains, in the reasons of values that cannot be bound (`Value.Reduced.reason`).
-/

namespace QueryTemplate

/-! ## Shorter texts -/

/-- A text from which characters have been left out. -/
def Shorter (s t : String) : Prop :=
  s.toList.Sublist t.toList ∧ s.length < t.length

namespace Shorter

/-- A shorter text is a different one. -/
theorem ne {s t : String} (h : Shorter s t) : s ≠ t := by
  rintro rfl
  exact Nat.lt_irrefl _ h.2

/-- A text stays shorter with the same text before it. -/
theorem append_left {s t : String} (h : Shorter s t) (a : String) : Shorter (a ++ s) (a ++ t) := by
  constructor
  · rw [String.toList_append, String.toList_append]
    exact h.1.append_left a.toList
  · rw [String.length_append, String.length_append]
    have hlength := h.2
    omega

/-- A text stays shorter with the same text after it. -/
theorem append_right {s t : String} (h : Shorter s t) (a : String) : Shorter (s ++ a) (t ++ a) := by
  constructor
  · rw [String.toList_append, String.toList_append]
    exact h.1.append_right a.toList
  · rw [String.length_append, String.length_append]
    have hlength := h.2
    omega

theorem trans {s t u : String} (hst : Shorter s t) (htu : Shorter t u) : Shorter s u :=
  ⟨hst.1.trans htu.1, Nat.lt_trans hst.2 htu.2⟩

/-- The empty text is shorter than any other. -/
theorem of_empty {t : String} (h : t ≠ "") : Shorter "" t := by
  constructor
  · exact List.nil_sublist _
  · have hlength : t.length ≠ 0 := fun hzero => h (String.length_eq_zero_iff.mp hzero)
    have hempty : "".length = 0 := rfl
    omega

end Shorter

/-- A character between quotes is never left out. -/
theorem quotedChar_ne_nil (quote c : Char) : quotedChar quote c ≠ [] := by
  rw [quotedChar, codePointText]
  repeat' split
  all_goals simp

/-- Replacing each character by characters keeps a list longer than another whose characters are among its own. -/
theorem length_flatMap_lt {f : Char → List Char} (hf : ∀ c, f c ≠ []) {s t : List Char} (h : s.Sublist t)
    (hlt : s.length < t.length) : (s.flatMap f).length < (t.flatMap f).length := by
  induction h with
  | slnil => exact absurd hlt (Nat.lt_irrefl _)
  | cons c h ih =>
    have hle := (h.flatMap f).length_le
    have hpos := List.length_pos_of_ne_nil (hf c)
    rw [List.flatMap_cons, List.length_append]
    omega
  | cons_cons c h ih =>
    have hlt' := ih (by simpa using hlt)
    rw [List.flatMap_cons, List.flatMap_cons, List.length_append, List.length_append]
    omega

/-- A text stays shorter between quotes. -/
theorem Shorter.quoteString {s t : String} (h : Shorter s t) : Shorter (quoteString s) (quoteString t) := by
  rw [QueryTemplate.quoteString, QueryTemplate.quoteString, quoted, quoted]
  constructor
  · rw [String.toList_ofList, String.toList_ofList]
    exact ((h.1.flatMap _).cons_cons _).append_right _
  · rw [String.length_ofList, String.length_ofList]
    have hlt := length_flatMap_lt (quotedChar_ne_nil '"') h.1 h.2
    simp only [List.length_append, List.length_cons, List.length_nil]
    omega

/-- Texts in brackets of which some are shorter are shorter together. -/
theorem Shorter.bracketed {xs ys : List String} (h : List.Forall₂ (fun x y => x = y ∨ Shorter x y) xs ys) :
    xs = ys ∨ Shorter (bracketed xs) (bracketed ys) := by
  have hjoined : xs = ys ∨ Shorter (", ".intercalate xs) (", ".intercalate ys) := by
    induction h with
    | nil => exact Or.inl rfl
    | @cons x y xs ys hhead htail ih =>
      cases htail with
      | nil =>
        rw [String.intercalate_singleton, String.intercalate_singleton]
        rcases hhead with rfl | hhead
        · exact Or.inl rfl
        · exact Or.inr hhead
      | cons _ _ =>
        rw [String.intercalate_cons_cons, String.intercalate_cons_cons]
        rcases hhead with rfl | hhead
        · rcases ih with heq | ih
          · exact Or.inl (congrArg _ heq)
          · exact Or.inr (ih.append_left _)
        · rcases ih with heq | ih
          · right
            rw [heq]
            exact (hhead.append_right _).append_right _
          · exact Or.inr (((hhead.append_right _).append_right _).trans (ih.append_left _))
  rcases hjoined with h | h
  · exact Or.inl h
  · exact Or.inr ((h.append_left _).append_right _)

/-! ## Values -/

namespace Value

/-- Whether a value is a string. -/
def isString : Value → Bool
  | .string _ => true
  | _ => false

/-- The first value is shown by a shorter text, and neither of them is a string. -/
structure Less (v w : Value) : Prop where
  left : v.isString = false
  right : w.isString = false
  shown : Shorter v.shown w.shown

/-- The first value is the second, or the second without some parts. -/
def Reduced (v w : Value) : Prop :=
  v = w ∨ Less v w

theorem Less.ne {v w : Value} (h : Less v w) : v ≠ w := by
  rintro rfl
  exact h.shown.ne rfl

/-- Parts may be left out of the content of an optional value. -/
theorem Less.optional {v w : Value} (h : Less v w) : Less (.optional v) (.optional w) := by
  refine ⟨rfl, rfl, ?_⟩
  rw [Value.shown, Value.shown]
  exact (h.shown.append_left _).append_right _

/-- The reasons that two values give tell them apart. -/
theorem Less.reason {v w : Value} (h : Less v w) : Shorter (Parameter.reason v) (Parameter.reason w) := by
  have hshown : ∀ v : Value, v.isString = false → Parameter.reason v = v.shown := by
    intro v hv
    cases v with
    | string s => cases hv
    | _ => rfl
  rw [hshown v h.left, hshown w h.right]
  exact h.shown

/-- Parts may be left out of the content that tells why a value cannot be bound. -/
theorem Less.unbindable {v w : Value} (h : Less v w) :
    Less (.unbindable (Parameter.reason v)) (.unbindable (Parameter.reason w)) := by
  refine ⟨rfl, rfl, ?_⟩
  rw [Value.shown, Value.shown]
  exact (h.reason.quoteString.append_left _).append_right _

/-- The elements of two lists are shown by the same texts only if they are the same. -/
theorem shownItems_of_reduced {vs ws : List Value} (h : List.Forall₂ Reduced vs ws) :
    List.Forall₂ (fun x y => x = y ∨ Shorter x y) (shownItems vs) (shownItems ws) ∧
      (shownItems vs = shownItems ws → vs = ws) := by
  induction h with
  | nil => exact ⟨List.Forall₂.nil, fun _ => rfl⟩
  | @cons v w vs ws hhead htail ih =>
    obtain ⟨hitems, hinj⟩ := ih
    rw [shownItems, shownItems]
    refine ⟨List.Forall₂.cons ?_ hitems, fun heq => ?_⟩
    · rcases hhead with rfl | hhead
      · exact Or.inl rfl
      · exact Or.inr hhead.shown
    · obtain ⟨hshown, htexts⟩ := List.cons.inj heq
      rcases hhead with rfl | hhead
      · rw [hinj htexts]
      · exact absurd hshown hhead.shown.ne

/-- Parts may be left out of the elements of a list. -/
theorem Reduced.list {vs ws : List Value} (h : List.Forall₂ Reduced vs ws) : Reduced (.list vs) (.list ws) := by
  obtain ⟨hitems, hinj⟩ := shownItems_of_reduced h
  rcases Shorter.bracketed hitems with heq | hshorter
  · exact Or.inl (congrArg Value.list (hinj heq))
  · right
    refine ⟨rfl, rfl, ?_⟩
    rw [shown, shown]
    exact (hshorter.append_left _).append_right _

/-- Parts may be left out of the one entry of a map. -/
theorem Reduced.entry {v w : Value} (h : Reduced v w) (key : Value) : Reduced (.map [(key, v)]) (.map [(key, w)]) := by
  rcases h with rfl | h
  · exact Or.inl rfl
  · right
    refine ⟨rfl, rfl, ?_⟩
    rw [shown, shown]
    simp only [shownEntries, bracketed, String.intercalate_singleton]
    have hentry := (h.shown.append_left ("(" ++ key.shown ++ ", ")).append_right ")"
    have hentries := (hentry.append_left "[").append_right "]"
    exact (hentries.append_left _).append_right _

/-- The brackets alone are shorter than with a text between them. -/
theorem shorter_bracketed_cons {text : String} (h : text ≠ "") (texts : List String) :
    Shorter (bracketed []) (bracketed (text :: texts)) := by
  rw [bracketed, bracketed]
  refine (Shorter.append_left (Shorter.of_empty ?_) _).append_right _
  cases texts with
  | nil =>
    rw [String.intercalate_singleton]
    exact h
  | cons other texts =>
    rw [String.intercalate_cons_cons]
    simp

/-- All entries of a map may be left out. -/
theorem less_map {entries : List (Value × Value)} (h : entries ≠ []) : Less (.map []) (.map entries) := by
  cases entries with
  | nil => exact absurd rfl h
  | cons entry entries =>
    refine ⟨rfl, rfl, ?_⟩
    rw [shown, shown, shownEntries, shownEntries]
    exact ((shorter_bracketed_cons (by simp) _).append_left _).append_right _

/-- All fields of a record may be left out. -/
theorem less_record {fields : List (String × Value)} (h : fields ≠ []) : Less (.record []) (.record fields) := by
  cases fields with
  | nil => exact absurd rfl h
  | cons field fields =>
    refine ⟨rfl, rfl, ?_⟩
    rw [shown, shown, shownFields, shownFields]
    exact ((shorter_bracketed_cons (by simp) _).append_left _).append_right _

end Value

end QueryTemplate
