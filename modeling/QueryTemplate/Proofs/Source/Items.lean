import QueryTemplate.Proofs.Source.Layout

/-!
# The items of a source

Each item by itself, from the layout of the source: an action stands in the source at its offset (`Item.action_of_scan`), and
a text is not empty and holds no opening braces (`Item.text_of_scan`).
-/

namespace QueryTemplate

namespace Item

/-- Trimming leaves a part of a text. -/
theorem trimmed_isInfix (before after : Bool) (s : List Char) : trimmed before after s <:+: s := by
  have hstart : (if before then trimStart s else s) <:+ s := by
    split
    · exact List.dropWhile_suffix isBlank
    · exact List.suffix_refl s
  rw [trimmed]
  split
  · have hend := trimEnd_prefix (if before then trimStart s else s)
    exact hend.isInfix.trans hstart.isInfix
  · exact hstart.isInfix

/-- An item of a layout is what a span holds, or what is left of a text. -/
theorem mem_itemsOf {marked : Bool} {first : List Char} {parts : List Part} {item : Item}
    (h : item ∈ itemsOf marked first parts) :
    (∃ part ∈ parts, part.item = item) ∨
      ∃ t before after, t ∈ first :: parts.map Part.text ∧ item ∈ ofText (trimmed before after t) := by
  induction parts generalizing marked first with
  | nil => exact Or.inr ⟨first, marked, false, List.mem_cons_self, h⟩
  | cons part parts ih =>
    rw [itemsOf, List.mem_append, List.mem_cons] at h
    rcases h with h | rfl | h
    · exact Or.inr ⟨first, marked, _, List.mem_cons_self, h⟩
    · exact Or.inl ⟨part, List.mem_cons_self, rfl⟩
    · rcases ih h with ⟨p, hp, hitem⟩ | ⟨t, before, after, ht, hitem⟩
      · exact Or.inl ⟨p, List.mem_cons_of_mem part hp, hitem⟩
      · exact Or.inr ⟨t, before, after, List.mem_cons_of_mem first ht, hitem⟩

theorem mem_ofText {s : List Char} {item : Item} (h : item ∈ ofText s) : s ≠ [] ∧ item = .text s := by
  rw [ofText] at h
  split at h
  · cases h
  · rename_i hs
    exact ⟨fun hnil => hs (by simp [hnil]), List.mem_singleton.mp h⟩

/-- The body of an action stands in the source at the offset of the action. -/
theorem action_of_scan {offset : Nat} {marked : Bool} {source : List Char} {items : List Item}
    (h : scan offset marked source = .ok items) {place : Nat} {body : List Char} (hitem : .action place body ∈ items) :
    ∃ before after, source = before ++ body ++ after ∧ place = offset + utf8Length before := by
  obtain ⟨first, parts, hlayout⟩ := layout_of_scan h
  rw [hlayout.items_eq] at hitem
  rcases mem_itemsOf hitem with ⟨part, hpart, hheld⟩ | ⟨t, _, _, _, ht⟩
  · obtain ⟨earlier, later, hparts⟩ := List.append_of_mem hpart
    have hspan := hlayout.spans earlier part later hparts
    rw [hheld] at hspan
    cases hspan with
    | action hspan hbody =>
      refine ⟨first ++ earlier.flatMap Part.source ++ openingOf part.span,
        closingOf part.span ++ part.text ++ later.flatMap Part.source, ?_, ?_⟩
      · have hsource : part.source = openingOf part.span ++ body ++ closingOf part.span ++ part.text :=
          congrArg (· ++ part.text) hspan
        rw [hlayout.source_eq, hparts, List.flatMap_append, List.flatMap_cons, hsource]
        simp only [List.append_assoc]
      · simp only [utf8Length_append, Nat.add_assoc]
  · cases (mem_ofText ht).2

/-- A text is not empty and holds no opening braces. -/
theorem text_of_scan {offset : Nat} {marked : Bool} {source : List Char} {items : List Item}
    (h : scan offset marked source = .ok items) {s : List Char} (hitem : .text s ∈ items) :
    s ≠ [] ∧ ¬['{', '{'] <:+: s := by
  obtain ⟨first, parts, hlayout⟩ := layout_of_scan h
  rw [hlayout.items_eq] at hitem
  rcases mem_itemsOf hitem with ⟨part, hpart, hheld⟩ | ⟨t, before, after, htext, ht⟩
  · obtain ⟨earlier, later, hparts⟩ := List.append_of_mem hpart
    have hspan := hlayout.spans earlier part later hparts
    rw [hheld] at hspan
    cases hspan
  · obtain ⟨hne, hs⟩ := mem_ofText ht
    cases hs
    exact ⟨hne, fun hbraces => hlayout.texts t htext (hbraces.trans (trimmed_isInfix before after t))⟩

end Item

end QueryTemplate
