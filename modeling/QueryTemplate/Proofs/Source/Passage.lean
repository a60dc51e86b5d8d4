import QueryTemplate.Source.Item

/-!
# Passing over the body of an action

The search for the end of an action goes on behind a text as it would without the text, but for the place with respect to
literals, the offset and what has been taken (`Item.Passes`). This composes, so that a text that is put together from
literals and plain characters is passed over piece by piece.
-/

namespace QueryTemplate

namespace Item

/-- The search for the end of an action passes over a text, from one place with respect to literals to another. -/
def Passes (p q : Literal) (u : List Char) : Prop :=
  ∀ opening start offset taken rest,
    closeAction opening start offset p taken (u ++ rest) =
      closeAction opening start (offset + utf8Length u) q (u.reverse ++ taken) rest

theorem Passes.nil (p : Literal) : Passes p p [] :=
  fun _ _ _ _ _ => rfl

/-- Texts that follow each other are passed over one after the other. -/
theorem Passes.append {p q r : Literal} {u v : List Char} (hu : Passes p q u) (hv : Passes q r v) :
    Passes p r (u ++ v) := by
  intro opening start offset taken rest
  rw [List.append_assoc, hu, hv, utf8Length_append, List.reverse_append, List.append_assoc, Nat.add_assoc]

/-- A character is passed over unless it may close the action or ends a line within quotes. -/
theorem passes_of_next {p q : Literal} {c : Char} (hclose : p = .outside → c ≠ '}')
    (hline : p.endsWithLine = true → c ≠ '\n') (hnext : ∀ offset, p.next offset c = q) : Passes p q [c] := by
  intro opening start offset taken rest
  rw [List.singleton_append, closeAction, if_neg fun h => hclose h.1 h.2.1, if_neg fun h => hline h.1 h.2, hnext]
  rfl

/-- The characters that mean nothing to the search outside literals. -/
def isPlain (c : Char) : Bool :=
  c != '"' && c != '\'' && c != '`' && c != '}'

theorem passes_plain {c : Char} (h : isPlain c = true) : Passes .outside .outside [c] := by
  simp only [isPlain, Bool.and_eq_true, bne_iff_ne] at h
  obtain ⟨⟨⟨hdouble, hsingle⟩, hraw⟩, hbrace⟩ := h
  exact passes_of_next (fun _ => hbrace) (fun h => by cases h) fun _ => by simp [Literal.next, hdouble, hsingle, hraw]

/-- A quote outside literals begins one. -/
theorem passes_opening_quote {q : Char} (h : q = '"' ∨ q = '\'') : Passes .outside (.quoted q) [q] :=
  passes_of_next (fun _ => by rcases h with rfl | rfl <;> decide) (fun h => by cases h) fun _ => by
    simp [Literal.next, h]

/-- The quote that began a literal ends it. -/
theorem passes_closing_quote {q : Char} (h : q = '"' ∨ q = '\'') : Passes (.quoted q) .outside [q] :=
  passes_of_next (fun h => by cases h) (fun _ => by rcases h with rfl | rfl <;> decide) fun _ => by
    rcases h with rfl | rfl <;> rfl

/-- Within quotes a character is passed over that is neither the quote nor a backslash and does not end the line. -/
theorem passes_within_quotes {q c : Char} (hslash : c ≠ '\\') (hquote : c ≠ q) (hline : c ≠ '\n') :
    Passes (.quoted q) (.quoted q) [c] :=
  passes_of_next (fun h => by cases h) (fun _ => hline) fun _ => by simp [Literal.next, hslash, hquote]

/-- Within quotes a backslash is passed over together with the character after it. -/
theorem passes_escape (q c : Char) : Passes (.quoted q) (.quoted q) ['\\', c] :=
  (passes_of_next (fun h => by cases h) (fun _ => by decide) fun _ => rfl : Passes _ (.escaped q) ['\\']).append
    (passes_of_next (fun h => by cases h) (fun h => by cases h) fun _ => rfl)

/-- Texts that are passed over one by one are passed over together. -/
theorem passes_of_forall {p : Literal} {u : List Char} (h : ∀ c ∈ u, Passes p p [c]) : Passes p p u := by
  induction u with
  | nil => exact Passes.nil p
  | cons c u ih =>
    exact (h c List.mem_cons_self).append (ih fun d hd => h d (List.mem_cons_of_mem c hd))

/-- A raw string is passed over. -/
theorem passes_raw {cs : List Char} (h : ∀ c ∈ cs, c ≠ '`') : Passes .outside .outside ('`' :: (cs ++ ['`'])) := by
  intro opening start offset taken rest
  -- the place within the string remembers where the string began, so it is no place to pass from in general
  have hinside : Passes (.raw offset) .outside (cs ++ ['`']) := by
    refine (passes_of_forall fun c hc => ?_).append
      (passes_of_next (fun h => by cases h) (fun h => by cases h) fun _ => rfl)
    exact passes_of_next (fun h => by cases h) (fun h => by cases h) fun _ => by simp [Literal.next, h c hc]
  rw [List.cons_append, closeAction, if_neg (by simp), if_neg (by simp)]
  show closeAction opening start (offset + '`'.utf8Size) (.raw offset) ('`' :: taken) _ = _
  rw [hinside, utf8Length_cons, List.reverse_cons, List.append_assoc, Nat.add_assoc]
  rfl

end Item

end QueryTemplate
