import QueryTemplate.Proofs.Parameter.Blanked
import QueryTemplate.Proofs.Render.Paired

/-!
# What cannot be bound and is not

A value for which the conversion has failed does nothing until it is bound: with null in its place everywhere, the query
is the same, and the arguments have null for it. The only difference is the failure itself, where such a value is bound
(`Template.render_blanked`).
-/

namespace QueryTemplate

/-- The query with null for everything in its arguments that cannot be bound. -/
def Rendered.blanked (r : Rendered) : Rendered :=
  ⟨r.query, r.arguments.map Value.blanked⟩

variable {reasons : String → Prop}

namespace Value.Blanks

theorem isCongruence : IsCongruence (Blanks reasons) where
  null := null
  bool := bool
  number := number
  string := string
  get? := get?
  isTruthy := isTruthy
  pairs? := pairs?

/-- The run with null in the place of what cannot be bound binds what the other run binds, unless the other fails to. -/
theorem runsPaired (policy : MissingValue) :
    RunsPaired (Error.IsConversion reasons) (Blanks reasons) (Blanks reasons) policy policy where
  congruence := isCongruence
  extract reference x y h := by
    cases h with
    | some h => exact h.toArgument
    | none =>
      cases policy with
      | null => exact Follows.ok null
      | error => exact Follows.error _

end Value.Blanks

/-- Of two queries that are paired in this way the second is the first with null for what cannot be bound. -/
theorem Rendered.Paired.eq_blanked {r s : Rendered} (h : Rendered.Paired (Value.Blanks reasons) r s) : s = r.blanked := by
  obtain ⟨query, arguments⟩ := s
  have harguments : List.Forall₂ Eq (r.arguments.map Value.blanked) arguments :=
    List.forall₂_map_left_iff.mpr (h.arguments.imp fun _ _ hvw => hvw.blanked.symm)
  rw [List.forall₂_eq_eq_eq] at harguments
  rw [Rendered.blanked, harguments, h.query]

/-- A template converts the same parts of both parameters. -/
theorem Compiled.convert_blanked (c : Compiled) {p : Parameter} (h : p.FailsFor reasons) :
    Alike Eq (Value.Blanks reasons) (c.convert p) (c.convert p.blanked) := by
  cases c with
  | static template => exact Parameter.convert_blanked template.pathTree h
  | dynamic nodes => exact Parameter.convert_blanked .whole h

namespace Template

/-- The run with null in the place of what cannot be bound follows the other run. -/
theorem render_follows (t : Template) {p : Parameter} (h : p.FailsFor reasons) :
    Follows (Error.IsConversion reasons) (Rendered.Paired (Value.Blanks reasons)) (t.render p) (t.render p.blanked) := by
  refine (t.compiled.convert_blanked h).follows.bind fun v w hvw => ?_
  exact t.compiled.render_paired (Value.Blanks.runsPaired t.options.missingValue) hvw

/-- A conversion that has failed does nothing until its value is bound. With null in the place of every such value the
template is rendered to the same query, and the arguments have null for what cannot be bound. And where it is rendered
with null, it is rendered to the same query from the parameter itself, or else fails with the reason of one of the
conversions. The reasons are texts: that is how a conversion that has failed describes itself. -/
theorem render_blanked (t : Template) {p : Parameter}
    (h : ∀ content, p.Fails content → ∃ message, content = .string message) :
    (∀ r, t.render p = .ok r → t.render p.blanked = .ok r.blanked) ∧
      ∀ s, t.render p.blanked = .ok s →
        (∃ r, t.render p = .ok r ∧ r.query = s.query) ∨
          ∃ message, p.Fails (.string message) ∧ t.render p = .error (.conversion message) := by
  have hfails : p.FailsFor fun message => p.Fails (.string message) := by
    intro content hcontent
    obtain ⟨message, rfl⟩ := h content hcontent
    exact ⟨message, rfl, hcontent⟩
  have hfollows := render_follows t hfails
  constructor
  · intro r hr
    obtain ⟨s, hs, hrs⟩ := hfollows.ok_left hr
    rw [hs, hrs.eq_blanked]
  · intro s hs
    rcases hfollows.ok_right hs with ⟨r, hr, hrs⟩ | ⟨e, he, message, hmessage, rfl⟩
    · exact Or.inl ⟨r, hr, hrs.query⟩
    · exact Or.inr ⟨message, hmessage, he⟩

/-- What decides a condition or stands in a list does nothing, and what is bound itself is reported. -/
theorem render_blanked_condition :
    (∃ t, build "{{if .B}}x{{end}}{{.A}}" .default = .ok t ∧
      t.render (.record [("A", .list [.unbindable (.string "bad")]), ("B", .unbindable (.string "worse"))]) =
        .ok ⟨"?", [.list [.unbindable "bad"]]⟩ ∧
      t.render (.record [("A", .list [.null]), ("B", .null)]) = .ok ⟨"?", [.list [.null]]⟩) ∧
    ∃ t, build "{{.B}}" .default = .ok t ∧ t.render (.record [("B", .null)]) = .ok ⟨"?", [.null]⟩ ∧
      ((∃ r, t.render (.record [("B", .unbindable (.string "worse"))]) = .ok r ∧ r.query = "?") ∨
        ∃ message, Parameter.Fails (.record [("B", .unbindable (.string "worse"))]) (.string message) ∧
          t.render (.record [("B", .unbindable (.string "worse"))]) = .error (.conversion message)) := by
  have hone : ∀ content, Parameter.Fails (.record [("B", .unbindable (.string "worse"))]) content →
      ∃ message, content = .string message := by
    intro content hcontent
    cases hcontent with
    | field hv hcontent =>
      cases List.mem_singleton.mp hv
      cases hcontent
      exact ⟨_, rfl⟩
  have htwo : ∀ content, Parameter.Fails
      (.record [("A", .list [.unbindable (.string "bad")]), ("B", .unbindable (.string "worse"))]) content →
      ∃ message, content = .string message := by
    intro content hcontent
    cases hcontent with
    | field hv hcontent =>
      rcases List.mem_cons.mp hv with hv | hv
      · cases hv
        cases hcontent with
        | item hitem hcontent =>
          cases List.mem_singleton.mp hitem
          cases hcontent
          exact ⟨_, rfl⟩
      · exact hone content (.field hv hcontent)
  have hwalk := render_blanked ⟨.dynamic [.block .cond ⟨[], false, [[.field ["B"]]]⟩ [.text "x"] [],
    .action ⟨[], false, [[.field ["A"]]]⟩], .default⟩ htwo
  have hstatic := render_blanked ⟨.static ⟨"?", [["B"]]⟩, .default⟩ hone
  exact ⟨⟨_, by decide +kernel, rfl, hwalk.1 ⟨"?", [.list [.unbindable "bad"]]⟩ rfl⟩,
    ⟨_, by decide +kernel, rfl, hstatic.2 ⟨"?", [.null]⟩ rfl⟩⟩

end Template

end QueryTemplate
