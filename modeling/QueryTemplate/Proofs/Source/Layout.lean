import QueryTemplate.Proofs.Outcome
import QueryTemplate.Proofs.Source.Scan

/-!
# The layout of a source

A source that splits is laid out as texts with spans between them, each span an action or comment with its braces
(`Item.Layout`). The items come from the layout: a text loses its blanks on the sides on which a span has a trim marker,
and each span gives its one item. Nothing else is lost (`Item.layout_of_ofSource`).
-/

namespace QueryTemplate

namespace Item

/-! ## Spans -/

/-- Whether a span begins with a left trim marker: the braces, a dash and a blank. -/
def opensTrimming : List Char → Bool
  | brace :: brace' :: dash :: c :: _ => brace == '{' && brace' == '{' && dash == '-' && isBlank c
  | _ => false

/-- The opening braces of a span, with the left trim marker if there is one. -/
def openingOf (span : List Char) : List Char :=
  span.take (if opensTrimming span then 4 else 2)

/-- Whether a span ends with a right trim marker: a blank, a dash and the braces. The blank of a left trim marker is not
that of a right one. -/
def closesTrimming (span : List Char) : Bool :=
  match (span.drop (openingOf span).length).reverse with
  | brace :: brace' :: dash :: c :: _ => brace == '}' && brace' == '}' && dash == '-' && isBlank c
  | _ => false

/-- The closing braces of a span, with the dash of the right trim marker if there is one. -/
def closingOf (span : List Char) : List Char :=
  if closesTrimming span then ['-', '}', '}'] else ['}', '}']

/-- The item that a span at an offset holds. The text of a comment goes up to the first end mark; only the blank of a right
trim marker may come after it. The body of an action is all that stands between the braces and their trim markers. -/
inductive HeldBy (offset : Nat) (span : List Char) : Item → Prop where
  | comment {inside : List Char} (blank : List Char) :
      span = openingOf span ++ ['/', '*'] ++ inside ++ ['*', '/'] ++ blank ++ closingOf span →
      ¬['*', '/'] <:+: inside ++ ['*'] → blank.length = (if closesTrimming span then 1 else 0) →
      HeldBy offset span (.comment inside)
  | action {body : List Char} :
      span = openingOf span ++ body ++ closingOf span → ¬['/', '*'] <+: body →
      HeldBy offset span (.action (offset + utf8Length (openingOf span)) body)

/-- A span, its item, and the text up to the next span. -/
structure Part where
  span : List Char
  item : Item
  text : List Char

/-- The part of a source that a span and its text make up. -/
def Part.source (part : Part) : List Char :=
  part.span ++ part.text

/-- The items of a text and the parts after it. The text loses its leading blanks if the span before it ends with a trim
marker, and its trailing blanks if the span after it begins with one. -/
def itemsOf (marked : Bool) (text : List Char) : List Part → List Item
  | [] => ofText (trimmed marked false text)
  | part :: parts =>
    ofText (trimmed marked (opensTrimming part.span) text) ++
      part.item :: itemsOf (closesTrimming part.span) part.text parts

/-- A source that begins at an offset is a first text and parts, and splits into their items. -/
structure Layout (offset : Nat) (marked : Bool) (source : List Char) (items : List Item) (first : List Char)
    (parts : List Part) : Prop where
  source_eq : source = first ++ parts.flatMap Part.source
  texts : ∀ t ∈ first :: parts.map Part.text, ¬['{', '{'] <:+: t
  delimited : ∀ part ∈ parts, ['{', '{'] <+: part.span ∧ ['}', '}'] <:+ part.span
  spans : ∀ before part after, parts = before ++ part :: after →
    HeldBy (offset + utf8Length (first ++ before.flatMap Part.source)) part.span part.item
  items_eq : items = itemsOf marked first parts

/-! ## What is found behind opening braces -/

/-- Blanks take one byte. -/
theorem utf8Size_of_isBlank {c : Char} (h : isBlank c = true) : c.utf8Size = 1 := by
  simp only [isBlank, Bool.or_eq_true, beq_iff_eq] at h
  rcases h with ((rfl | rfl) | rfl) | rfl <;> rfl

theorem opensTrimming_cons (after : List Char) : opensTrimming ('{' :: '{' :: after) = (leftMarker after).1 := by
  unfold leftMarker
  split
  · rename_i dash c rest
    show ('{' == '{' && '{' == '{' && dash == '-' && isBlank c) = _
    split
    · rename_i h
      simp [h.1, h.2]
    · rename_i h
      rw [Bool.eq_false_iff]
      simpa using h
  · rename_i h
    match after, h with
    | [], _ => rfl
    | [x], _ => rfl
    | dash :: c :: rest, h => exact absurd rfl (h dash c rest)

/-- The span of what stands between a left trim marker and closing braces. -/
theorem span_of_leftMarker {after u rest : List Char} (h : (leftMarker after).2 = u ++ '}' :: '}' :: rest) :
    ∃ span, '{' :: '{' :: after = span ++ rest ∧ ['{', '{'] <+: span ∧ opensTrimming span = (leftMarker after).1 ∧
      span = openingOf span ++ u ++ ['}', '}'] ∧
      utf8Length (openingOf span) = if (leftMarker after).1 then 4 else 2 := by
  rcases leftMarker_cases after with ⟨c, s, hblank, rfl, hmarker⟩ | hmarker
  · rw [hmarker] at h ⊢
    cases h
    have hopens : opensTrimming ('{' :: '{' :: '-' :: c :: (u ++ ['}', '}'])) = true := by
      simp [opensTrimming, hblank]
    refine ⟨'{' :: '{' :: '-' :: c :: (u ++ ['}', '}']), by simp, ⟨_, rfl⟩, hopens, ?_, ?_⟩
    · rw [openingOf, hopens]
      rfl
    · rw [openingOf, hopens]
      simp only [if_true, List.take_succ_cons, List.take_zero, utf8Length_cons, utf8Length_nil, utf8Size_of_isBlank hblank]
      rfl
  · rw [hmarker] at h
    cases h
    -- the first two characters decide about the marker, and the closing braces make up for what is missing of them
    have hopens : opensTrimming ('{' :: '{' :: (u ++ ['}', '}'])) = false := by
      rw [opensTrimming_cons]
      rcases leftMarker_cases (u ++ ['}', '}']) with ⟨c, tail, hblank, hu, -⟩ | hnone
      · match u, hu with
        | [_], hu =>
          cases hu
          cases hblank
        | _ :: _ :: _, hu =>
          cases hu
          simp [leftMarker, hblank] at hmarker
      · rw [hnone]
    refine ⟨'{' :: '{' :: (u ++ ['}', '}']), by simp, ⟨_, rfl⟩, by rw [hopens, hmarker], ?_, ?_⟩
    · rw [openingOf, hopens]
      rfl
    · rw [openingOf, hopens, hmarker]
      rfl

/-- The right trim marker of a span is the one that its contents end with. -/
theorem closesTrimming_eq {span u : List Char} (h : span = openingOf span ++ u ++ ['}', '}']) :
    closesTrimming span = (bodyOf u.reverse).2 := by
  have hdrop : span.drop (openingOf span).length = u ++ ['}', '}'] := by
    have hwhole := congrArg (List.drop (openingOf span).length) h
    rwa [List.append_assoc, List.drop_left] at hwhole
  rw [closesTrimming, hdrop, List.reverse_append]
  unfold bodyOf
  match u.reverse with
  | [] => rfl
  | [x] => rfl
  | dash :: c :: before =>
    show ('}' == '}' && '}' == '}' && dash == '-' && isBlank c) = _
    split
    · rename_i heq
      cases heq
      split
      · rename_i h
        simp [h.1, h.2]
      · rename_i h
        rw [Bool.eq_false_iff]
        simpa using h
    · rename_i hshort
      exact absurd rfl (hshort _ _ _)

/-- A right trim marker is a blank and a dash; where there is none the body is all that stands there. -/
theorem bodyOf_cases (taken : List Char) :
    (∃ c before, taken = '-' :: c :: before ∧ bodyOf taken = ((c :: before).reverse, true)) ∨
      bodyOf taken = (taken.reverse, false) := by
  unfold bodyOf
  split
  · split
    · rename_i h
      exact Or.inl ⟨_, _, by rw [h.1], rfl⟩
    · exact Or.inr rfl
  · exact Or.inr rfl

/-- A body begins what was taken. -/
theorem bodyOf_prefix (taken : List Char) : (bodyOf taken).1 <+: taken.reverse := by
  rcases bodyOf_cases taken with ⟨c, before, rfl, hbody⟩ | hbody
  · rw [hbody]
    exact ⟨['-'], List.reverse_cons.symm⟩
  · simp [hbody]

/-- The contents of a span are the body of an action and the dash of the right trim marker. -/
theorem bodyOf_append_closingOf {span u : List Char} (h : span = openingOf span ++ u ++ ['}', '}']) :
    span = openingOf span ++ (bodyOf u.reverse).1 ++ closingOf span := by
  have hcontents : (bodyOf u.reverse).1 ++ closingOf span = u ++ ['}', '}'] := by
    rw [closingOf, closesTrimming_eq h]
    rcases bodyOf_cases u.reverse with ⟨c, before, hu, hbody⟩ | hbody <;> rw [hbody]
    · have hwhole : u = (c :: before).reverse ++ ['-'] := by
        rw [← List.reverse_cons, ← hu, List.reverse_reverse]
      rw [hwhole, List.append_assoc]
      rfl
    · rw [List.reverse_reverse]
      rfl
  rw [List.append_assoc, hcontents, ← List.append_assoc]
  exact h

/-! ## The ends of actions and comments -/

/-- An action ends at closing braces; what was taken up to them is its body and the dash of its right trim marker. -/
theorem closeAction_eq_ok {opening start offset : Nat} {place : Literal} {taken s : List Char} {found : Found}
    (h : closeAction opening start offset place taken s = .ok found) :
    ∃ u, s = u ++ '}' :: '}' :: found.rest ∧ found.item = .action start (bodyOf (u.reverse ++ taken)).1 ∧
      found.trims = (bodyOf (u.reverse ++ taken)).2 ∧ found.offset = offset + utf8Length u + 2 := by
  induction s generalizing offset place taken with
  | nil => cases h
  | cons c rest ih =>
    rw [closeAction] at h
    split at h
    · rename_i hends
      obtain ⟨-, rfl, hhead⟩ := hends
      obtain ⟨rest, rfl⟩ := List.head?_eq_some_iff.mp hhead
      cases h
      exact ⟨[], rfl, rfl, rfl, rfl⟩
    · split at h
      · cases h
      · obtain ⟨u, rfl, hitem, htrims, hoffset⟩ := ih h
        refine ⟨c :: u, rfl, ?_, ?_, ?_⟩
        · rw [hitem, List.reverse_cons, List.append_assoc]
          rfl
        · rw [htrims, List.reverse_cons, List.append_assoc]
          rfl
        · rw [hoffset, utf8Length_cons, Nat.add_assoc offset]

/-- A comment ends at its first end mark; a right trim marker may stand between this and the closing braces. -/
theorem closeComment_eq_ok {opening offset : Nat} {s : List Char} {found : Found}
    (h : closeComment opening offset s = .ok found) :
    ∃ inside marker, s = inside ++ ['*', '/'] ++ marker ++ '}' :: '}' :: found.rest ∧
      ¬['*', '/'] <:+: inside ++ ['*'] ∧ found.item = .comment inside ∧
      found.offset = offset + utf8Length (inside ++ ['*', '/'] ++ marker) + 2 ∧
      (marker = [] ∧ found.trims = false ∨ ∃ c, isBlank c = true ∧ marker = [c, '-'] ∧ found.trims = true) := by
  unfold closeComment at h
  split at h
  · cases h
  · rename_i inside after hcut
    obtain ⟨rfl, hfirst⟩ := cutAt_eq_some_iff.mp hcut
    dsimp only at h
    split at h
    · rename_i hcloses
      obtain ⟨rest, rfl⟩ := List.isPrefixOf_iff_prefix.mp hcloses
      cases h
      refine ⟨inside, [], by simp, hfirst, rfl, ?_, Or.inl ⟨rfl, rfl⟩⟩
      simp only [List.append_nil, utf8Length_append, Nat.add_assoc]
      rfl
    · split at h
      · rename_i hmarker
        obtain ⟨hblank, hcloses⟩ := hmarker
        obtain ⟨rest, hrest⟩ := List.isPrefixOf_iff_prefix.mp hcloses
        match after, hblank, hrest, h with
        | c :: after, hblank, hrest, h =>
          replace hblank : isBlank c = true := by simpa using hblank
          replace hrest : after = ['-', '}', '}'] ++ rest := hrest.symm
          subst hrest
          cases h
          refine ⟨inside, [c, '-'], by simp, hfirst, rfl, ?_, Or.inr ⟨c, hblank, rfl, rfl⟩⟩
          simp only [utf8Length_append, utf8Length_cons c, utf8Size_of_isBlank hblank, Nat.add_assoc]
          rfl
      · cases h

/-- What is found behind opening braces is a span with the item that it holds. -/
theorem span_of_close {opening : Nat} {after : List Char} {found : Found}
    (h : close opening (opening + if (leftMarker after).1 then 4 else 2) (leftMarker after).2 = .ok found) :
    ∃ span, '{' :: '{' :: after = span ++ found.rest ∧ ['{', '{'] <+: span ∧ ['}', '}'] <:+ span ∧
      opensTrimming span = (leftMarker after).1 ∧ closesTrimming span = found.trims ∧
      HeldBy opening span found.item ∧ found.offset = opening + utf8Length span := by
  unfold close at h
  split at h
  · rename_i hcomment
    obtain ⟨t, ht⟩ := List.isPrefixOf_iff_prefix.mp hcomment
    rw [← ht] at h
    obtain ⟨inside, marker, hclosed, hfirst, hitem, hoffset, hmarker⟩ := closeComment_eq_ok h
    have hcontents : (leftMarker after).2 =
        (['/', '*'] ++ inside ++ ['*', '/'] ++ marker) ++ '}' :: '}' :: found.rest := by
      rw [← ht, show t = _ from hclosed]
      simp only [List.append_assoc]
    obtain ⟨span, hsource, hbegins, hopens, hspan, hbytes⟩ := span_of_leftMarker hcontents
    have hcloses : closesTrimming span = found.trims := by
      rw [closesTrimming_eq hspan]
      obtain ⟨rfl, htrims⟩ | ⟨c, hblank, rfl, htrims⟩ := hmarker <;> rw [htrims]
      · simp [bodyOf]
      · simp [bodyOf, hblank]
    refine ⟨span, hsource, hbegins, ⟨_, hspan.symm⟩, hopens, hcloses, ?_, ?_⟩
    · rw [hitem]
      obtain ⟨rfl, htrims⟩ | ⟨c, hblank, rfl, htrims⟩ := hmarker
      · refine .comment [] ?_ hfirst (by rw [hcloses, htrims]; rfl)
        rw [closingOf, hcloses, htrims]
        simpa using hspan
      · refine .comment [c] ?_ hfirst (by rw [hcloses, htrims]; rfl)
        rw [closingOf, hcloses, htrims]
        simpa using hspan
    · have hlength := congrArg utf8Length hspan
      simp only [utf8Length_append, hbytes] at hlength
      rw [hoffset, hlength]
      simp only [utf8Length_append, Nat.add_assoc]
      rfl
  · rename_i hcomment
    obtain ⟨u, hclosed, hitem, htrims, hoffset⟩ := closeAction_eq_ok h
    rw [List.append_nil] at hitem htrims
    obtain ⟨span, hsource, hbegins, hopens, hspan, hbytes⟩ := span_of_leftMarker hclosed
    refine ⟨span, hsource, hbegins, ⟨_, hspan.symm⟩, hopens, by rw [closesTrimming_eq hspan, htrims], ?_, ?_⟩
    · rw [hitem, ← hbytes]
      refine .action (bodyOf_append_closingOf hspan) fun hbody => hcomment ?_
      rw [hclosed, List.isPrefixOf_iff_prefix]
      have hbegins := bodyOf_prefix u.reverse
      rw [List.reverse_reverse] at hbegins
      exact (hbody.trans hbegins).trans (List.prefix_append _ _)
    · have hlength := congrArg utf8Length hspan
      rw [utf8Length_append, utf8Length_append, hbytes] at hlength
      rw [hoffset, hlength, ← Nat.add_assoc, ← Nat.add_assoc]
      rfl

/-! ## The layout -/

/-- A span in front of a layout, and a text in front of that. -/
theorem Layout.cons {offset : Nat} {marked : Bool} {before rest : List Char} {items : List Item} {parts : List Part}
    (part : Part) (htext : ¬['{', '{'] <:+: before)
    (hdelimited : ['{', '{'] <+: part.span ∧ ['}', '}'] <:+ part.span)
    (hheld : HeldBy (offset + utf8Length before) part.span part.item)
    (hrest : Layout (offset + utf8Length before + utf8Length part.span) (closesTrimming part.span) rest items part.text
      parts) :
    Layout offset marked (before ++ part.span ++ rest)
      (ofText (trimmed marked (opensTrimming part.span) before) ++ part.item :: items) before (part :: parts) where
  source_eq := by
    rw [hrest.source_eq, List.flatMap_cons, Part.source]
    simp only [List.append_assoc]
  texts t ht := by
    rcases List.mem_cons.mp ht with rfl | ht
    · exact htext
    · exact hrest.texts t ht
  delimited p hp := by
    rcases List.mem_cons.mp hp with rfl | hp
    · exact hdelimited
    · exact hrest.delimited p hp
  spans earlier p later hparts := by
    match earlier, hparts with
    | [], hparts =>
      cases hparts
      simpa using hheld
    | q :: earlier, hparts =>
      cases hparts
      have hspan := hrest.spans earlier p later rfl
      simp only [List.flatMap_cons, Part.source, utf8Length_append, Nat.add_assoc] at hspan ⊢
      exact hspan
  items_eq := by rw [itemsOf, hrest.items_eq]

/-- The layout of a source from an offset on, whatever stands before it. -/
theorem layout_of_scan {offset : Nat} {marked : Bool} {source : List Char} {items : List Item}
    (h : scan offset marked source = .ok items) : ∃ first parts, Layout offset marked source items first parts := by
  induction hn : source.length using Nat.strongRecOn generalizing offset marked source items with
  | ind n ih =>
    cases hcut : cutAt '{' '{' source with
    | none =>
      rw [scan_of_none hcut] at h
      cases h
      refine ⟨source, [], by simp, ?_, by simp, by simp, rfl⟩
      intro t ht
      rw [List.map_nil, List.mem_singleton] at ht
      exact ht ▸ not_infix_of_cutAt hcut
    | some cut =>
      obtain ⟨before, after⟩ := cut
      obtain ⟨hsource, hfirst⟩ := cutAt_eq_some_iff.mp hcut
      rw [scan_of_some hcut] at h
      split at h
      · cases h
      · rename_i found hclose
        obtain ⟨rest, hrest, rfl⟩ := map_eq_ok.mp h
        obtain ⟨span, hspan, hbegins, hends, hopens, hcloses, hheld, hoffset⟩ := span_of_close hclose
        have hshorter : found.rest.length < n := by
          have hlength := congrArg List.length hspan
          have hnonempty := hbegins.length_le
          simp only [List.length_append, List.length_cons, List.length_nil] at hlength hnonempty
          rw [← hn, hsource, List.length_append, List.length_cons, List.length_cons]
          omega
        obtain ⟨text, parts, hlayout⟩ := ih _ hshorter hrest rfl
        rw [hsource, hspan, ← List.append_assoc, ← hopens]
        rw [hoffset, ← hcloses] at hlayout
        have htext : ¬['{', '{'] <:+: before := fun hpair => hfirst (hpair.trans (List.infix_append_left))
        exact ⟨before, _, .cons ⟨span, found.item, text⟩ htext ⟨hbegins, hends⟩ hheld hlayout⟩

/-- A source that splits has a layout: it is texts without opening braces and spans between braces, and its items are what
the texts and spans hold, in order. A text loses its leading blanks exactly if the span before it ends with a trim marker
and its trailing blanks exactly if the span after it begins with one, and a text of which nothing is left gives no item. -/
theorem layout_of_ofSource {source : List Char} {items : List Item} (h : ofSource source = .ok items) :
    ∃ first parts, Layout 0 false source items first parts :=
  layout_of_scan h

/-- A comment and an action with markers on both sides, and braces whose one blank belongs to the left marker. -/
theorem layout_of_ofSource_with_markers :
    ofSource "é {{- /* x */ -}} b{{- -}} {{ .A -}} ".toList =
        .ok [.text ['é'], .comment " x ".toList, .text ['b'], .action 24 ['-'], .text [' '], .action 30 " .A ".toList] ∧
      ∃ first parts, Layout 0 false "é {{- /* x */ -}} b{{- -}} {{ .A -}} ".toList
        [.text ['é'], .comment " x ".toList, .text ['b'], .action 24 ['-'], .text [' '], .action 30 " .A ".toList]
        first parts :=
  have h : ofSource "é {{- /* x */ -}} b{{- -}} {{ .A -}} ".toList =
      .ok [.text ['é'], .comment " x ".toList, .text ['b'], .action 24 ['-'], .text [' '], .action 30 " .A ".toList] := by
    decide +kernel
  ⟨h, layout_of_ofSource h⟩

end Item

end QueryTemplate
