import QueryTemplate.Assembly
import QueryTemplate.Proofs.Action.Stop
import QueryTemplate.Proofs.Scope.Fault
import QueryTemplate.Proofs.Source.Fault
import QueryTemplate.Proofs.Source.Items

/-!
# Where a source goes wrong

Every error of a source that has no tree points into the source (`Node.points_of_parse`). The errors of putting the tree
together point at actions: at the one that was taken (`Assembly.ends_addAction`), or, for a block without an end, at the one
that opened the block, which the open blocks remember (`Assembly.OpenedAt`).
-/

namespace QueryTemplate

/-- The error is a fault of the source at an offset. -/
def Error.PointsAt (offset : Nat) (e : Error) : Prop :=
  ∃ cause, e = .parse offset cause

namespace Assembly

/-- The offsets of the actions that opened blocks have a property. -/
def OpenedAt (P : Nat → Prop) (a : Assembly) : Prop :=
  ∀ block ∈ a.blocks, P block.offset

variable {P : Nat → Prop} {a : Assembly} {offset : Nat}

/-- The check of a pipeline reports at the offset of the action. -/
theorem pointsAt_afterPipeline (offset : Nat) (place : PipelinePlace) (scope : Scope) (pipeline : Pipeline) :
    Ends (fun _ => True) (Error.PointsAt offset) (Scope.afterPipeline offset place scope pipeline) :=
  (Scope.ends_afterPipeline offset place scope pipeline).mono (fun _ h => h) fun _ ⟨cause, he, _⟩ => ⟨cause, he⟩

theorem ends_openBlock (ha : a.OpenedAt P) (hoffset : P offset) (kind : BlockKind) (pipeline : Pipeline)
    (chained : Bool) : Ends (OpenedAt P) (Error.PointsAt offset) (a.openBlock offset kind pipeline chained) := by
  refine (pointsAt_afterPipeline offset (.block kind) a.scope pipeline).bind fun scope _ => ?_
  intro block hblock
  rcases List.mem_cons.mp hblock with rfl | hblock
  · exact hoffset
  · exact ha block hblock

theorem ends_beginElse (ha : a.OpenedAt P) (hoffset : P offset) (chained : Option (BlockKind × Pipeline)) :
    Ends (OpenedAt P) (Error.PointsAt offset) (a.beginElse offset chained) := by
  rw [beginElse]
  split
  · exact ⟨_, rfl⟩
  · rename_i block outer hblocks
    split
    · exact ⟨_, rfl⟩
    · have halternative : OpenedAt P ⟨[], a.scope, { block with body := some a.nodes } :: outer⟩ := by
        intro b hb
        rcases List.mem_cons.mp hb with rfl | hb
        · exact ha block (hblocks ▸ List.mem_cons_self)
        · exact ha b (hblocks ▸ List.mem_cons_of_mem block hb)
      split
      · exact halternative
      · split
        · exact ends_openBlock halternative hoffset _ _ true
        · exact ⟨_, rfl⟩

/-- What a block leaves open when it ends was open around it. -/
theorem openedAt_close {block : OpenBlock} {outer : List OpenBlock} (h : ∀ b ∈ outer, P b.offset) (nodes : List Node) :
    (close block nodes outer).OpenedAt P := by
  induction outer generalizing block nodes with
  | nil => exact fun b hb => by cases hb
  | cons around others ih =>
    rw [close]
    split
    · exact ih (fun b hb => h b (List.mem_cons_of_mem around hb)) _
    · exact h

/-- An action is taken, or its error points at it. -/
theorem ends_addAction (ha : a.OpenedAt P) (hoffset : P offset) (action : Action) :
    Ends (OpenedAt P) (Error.PointsAt offset) (a.addAction offset action) := by
  cases action with
  | output pipeline => exact (pointsAt_afterPipeline offset .action a.scope pipeline).bind fun _ _ => ha
  | opening kind pipeline => exact ends_openBlock ha hoffset kind pipeline false
  | otherwise chained => exact ends_beginElse ha hoffset chained
  | ending =>
    rw [addAction, endBlock]
    split
    · exact ⟨_, rfl⟩
    · rename_i block outer hblocks
      exact openedAt_close (fun b hb => ha b (hblocks ▸ List.mem_cons_of_mem block hb)) a.nodes
  | breakLoop | continueLoop =>
    rw [addAction]
    split
    · exact ha
    · exact ⟨_, rfl⟩
  | template name argument =>
    cases argument with
    | none => exact ha
    | some pipeline => exact (pointsAt_afterPipeline offset .template a.scope pipeline).bind fun _ _ => ha
  | definition keyword => exact ⟨_, rfl⟩

end Assembly

/-- The errors of an item that stands in a source point into the source, whether its action cannot be read or cannot be
taken. -/
theorem Item.ends_add {source : List Char} {item : Item} {a : Assembly} (ha : a.OpenedAt (IsBoundary source))
    (hplaced : ∀ offset body, item = .action offset body → ∃ before after, source = before ++ body ++ after ∧
      offset = utf8Length before) :
    Ends (Assembly.OpenedAt (IsBoundary source)) (Error.PointsInto source) (Piece.ofItem item >>= a.add) := by
  cases item with
  | text s | comment s => exact ha
  | action offset body =>
    obtain ⟨before, after, rfl, rfl⟩ := hplaced offset body rfl
    rw [Piece.ofItem]
    split
    · rename_i action hbody
      have hoffset : IsBoundary (before ++ body ++ after) (utf8Length before) := by
        rw [List.append_assoc]
        exact isBoundary_append before (body ++ after)
      refine (Assembly.ends_addAction ha hoffset action).mono (fun _ h => h) ?_
      rintro _ ⟨cause, rfl⟩
      exact .boundary cause hoffset
    · rename_i place cause hbody
      exact .boundary cause ((Action.isBoundary_of_ofBody hbody).within before after)

/-- Errors of a source point into the source. Whatever is wrong with a source, the error is a fault of the source at an
offset, and this is a valid position of the source, no further than its end and not inside a character. There is one
exception: where a source ends with a backslash inside quotes inside an action, the offset lies one byte behind its end. -/
theorem Node.points_of_parse {source : String} {e : Error} (h : parse source = .error e) :
    ∃ offset cause, e = .parse offset cause ∧
      ((⟨offset⟩ : String.Pos.Raw).IsValid source ∨
        cause = .unterminatedString ∧ offset = source.utf8ByteSize + 1 ∧ source.toList.getLast? = some '\\') := by
  have hpoints : e.PointsInto source.toList := by
    rcases bind_eq_error.mp h with hscan | ⟨items, hitems, h⟩
    · exact Item.pointsInto_of_scan (List.nil_append _).symm hscan
    · have hfold : Ends (Assembly.OpenedAt (IsBoundary source.toList)) (Error.PointsInto source.toList)
          (items.foldlM (fun a item => Piece.ofItem item >>= a.add) Assembly.empty) := by
        refine Ends.foldlM (fun a item hitem ha => Item.ends_add ha ?_) fun _ hblock => by cases hblock
        rintro offset body rfl
        obtain ⟨before, after, hsource, hoffset⟩ := Item.action_of_scan hitems hitem
        exact ⟨before, after, hsource, hoffset.trans (Nat.zero_add _)⟩
      rcases bind_eq_error.mp h with hadd | ⟨a, ha, hfinish⟩
      · exact hfold.of_eq_error hadd
      · have hopened := hfold.of_eq_ok ha
        rw [Assembly.finish] at hfinish
        split at hfinish
        · cases hfinish
        · rename_i block outer hblocks
          cases hfinish
          exact .boundary _ (hopened block (hblocks ▸ List.mem_cons_self))
  cases hpoints with
  | boundary cause hboundary => exact ⟨_, cause, rfl, Or.inl (isBoundary_toList.mp hboundary)⟩
  | behind hlast => exact ⟨_, _, rfl, Or.inr ⟨rfl, by rw [utf8Length_toList], hlast⟩⟩

/-- A body that goes wrong behind a text that is longer in bytes than in characters. -/
theorem Node.points_of_parse_behind_text :
    parse "é{{.B |}}" = .error (.parse 7 (.unexpectedChar '|')) ∧ (⟨7⟩ : String.Pos.Raw).IsValid "é{{.B |}}" := by
  have hparse : parse "é{{.B |}}" = .error (.parse 7 (.unexpectedChar '|')) := by decide +kernel
  obtain ⟨offset, cause, he, hvalid⟩ := points_of_parse hparse
  cases he
  rcases hvalid with hvalid | ⟨hcause, -⟩
  · exact ⟨hparse, hvalid⟩
  · cases hcause

/-- A backslash inside quotes may be the last character of a source, and then the error points behind the end. -/
theorem Node.not_points_of_parse :
    ¬∀ (source : String) (e : Error), parse source = .error e →
      ∃ offset cause, e = .parse offset cause ∧ (⟨offset⟩ : String.Pos.Raw).IsValid source := by
  intro h
  have hparse : parse "\x7b\x7b\"\\" = .error (.parse 5 .unterminatedString) := by decide +kernel
  obtain ⟨offset, cause, he, hvalid⟩ := h _ _ hparse
  cases he
  exact absurd hvalid.le_rawEndPos (by decide)

end QueryTemplate
