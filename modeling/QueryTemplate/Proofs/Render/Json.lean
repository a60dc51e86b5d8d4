import QueryTemplate.Proofs.Render.Recast

/-!
# Rendering from JSON

A JSON value becomes a value in three ways: at once (`Value.ofJson`), as a parameter that is converted as a whole, and
as a parameter of which a compiled template converts a part. It is converted as a whole to the value that it becomes at once
(`Parameter.toValue_ofJson`) and describes no variant of which a part could be lost, so the three ways lead to the same query
(`Template.render_ofJson`).
-/

namespace QueryTemplate

namespace Parameter

/-! ## The description of a JSON value -/

/-- Only lists and maps have parts, and a JSON value is no layer around another one. -/
theorem content_ofJson (j : Json) : (ofJson j).content = ofJson j := by
  cases j <;> rfl

theorem entryAt?_ofJsonMembers {name : String} {members : List (String × Json)} {q : Parameter}
    (h : entryAt? name none (ofJsonMembers members) = some q) : ∃ j, q = ofJson j := by
  induction members with
  | nil => cases h
  | cons m members ih =>
    obtain ⟨key, j⟩ := m
    simp only [ofJsonMembers, entryAt?] at h
    split at h
    · cases h
      exact ⟨j, rfl⟩
    · exact ih h

/-- The parts of a JSON value are JSON values. -/
theorem part?_ofJson {j : Json} {name : String} {q : Parameter} (h : (ofJson j).part? name = some q) :
    ∃ k, q = ofJson k := by
  rw [part?, content_ofJson] at h
  cases j with
  | object members => exact entryAt?_ofJsonMembers h
  | _ => cases h

/-- A JSON value describes no variant, so nothing of it is curtailed. -/
theorem not_lacks_ofJson (paths : PathTree) (j : Json) (path : List String) : ¬Lacks paths (ofJson j) path := by
  refine not_lacks_of_closed (S := fun p => ∃ k, p = ofJson k) ?_ ?_ ⟨j, rfl⟩ paths path
  · rintro _ name q ⟨k, rfl⟩ hq
    exact part?_ofJson hq
  · rintro _ name items ⟨k, rfl⟩ hcontent
    rw [content_ofJson] at hcontent
    cases k <;> cases hcontent

/-! ## The conversion of a JSON value -/

mutual

/-- A JSON value is converted as a whole to its value, and never refused. -/
theorem toValue_ofJson (j : Json) : (ofJson j).toValue = .ok (.ofJson j) := by
  match j with
  | .null | .bool _ | .natural _ | .negative _ | .float _ | .string _ => rfl
  | .array items => exact bind_eq_ok.mpr ⟨_, convertItems_ofJsonItems items, rfl⟩
  | .object members => exact bind_eq_ok.mpr ⟨_, convertSteps_ofJsonMembers members, rfl⟩

theorem convertItems_ofJsonItems (items : List Json) :
    convertItems .whole (ofJsonItems items) = .ok (Value.ofJsonItems items) := by
  match items with
  | [] => rfl
  | item :: items =>
    exact bind_eq_ok.mpr ⟨_, toValue_ofJson item, bind_eq_ok.mpr ⟨_, convertItems_ofJsonItems items, rfl⟩⟩

theorem convertSteps_ofJsonMembers (members : List (String × Json)) :
    convertSteps .whole none (ofJsonMembers members) = .ok (Value.ofJsonMembers members) := by
  match members with
  | [] => rfl
  | (name, v) :: members =>
    exact bind_eq_ok.mpr ⟨.string name, rfl,
      bind_eq_ok.mpr ⟨_, toValue_ofJson v, bind_eq_ok.mpr ⟨_, convertSteps_ofJsonMembers members, rfl⟩⟩⟩

end

end Parameter

/-! ## The query -/

namespace Template

/-- A JSON value describes no variant, so a template loses nothing of it. -/
theorem not_curtails_ofJson (t : Template) (j : Json) : ¬t.Curtails (.ofJson j) :=
  not_curtails_of_not_lacks (fun paths path => Parameter.not_lacks_ofJson paths j path) t

/-- Rendering from a JSON value as a parameter, of which a compiled template converts only the parts that it binds, is
rendering from the value that it becomes at once: the same query with the same arguments, or the same error. -/
theorem render_ofJson (t : Template) (j : Json) :
    t.render (.ofJson j) = t.compiled.render t.options (.ofJson j) :=
  render_of_not_curtails (Parameter.toValue_ofJson j) (t.not_curtails_ofJson j)

end Template

end QueryTemplate
