import QueryTemplate.Proofs.Parameter.Part
import QueryTemplate.Render.Static

/-!
# Rendering from a parameter in part

A template without blocks converts only the parts of a parameter on its paths. A parameter that can be converted as a
whole can be converted so, and the query is the one that the whole value gives, with one exception
(`StaticTemplate.render_convert_iff`): where a path ends at the content of a variant of several values, the elements come
without their parts under names.
-/

namespace QueryTemplate

namespace StaticTemplate

/-- The template binds the content of a variant of several values, but neither the variant nor anything that it is part
of, and the elements have parts under names. -/
def Curtails (t : StaticTemplate) (p : Parameter) : Prop :=
  ∃ front name, front ++ [name] ∈ t.paths ∧ (∀ path ∈ t.paths, ¬ path <+: front) ∧
    ∃ q items, p.at? front = some q ∧ q.content = .variantList name items ∧ Parameter.anyNamedPart items = true

/-- The paths of a template are needed. -/
theorem covers_pathTree {t : StaticTemplate} {path : List String} (h : path ∈ t.paths) : t.pathTree.Covers path :=
  (PathTree.covers_ofPaths t.paths path).mpr ⟨path, h, List.prefix_rfl⟩

/-- A template curtails a parameter when one of its paths leads to elements that lack parts. -/
theorem curtails_iff (t : StaticTemplate) (p : Parameter) :
    t.Curtails p ↔ ∃ path ∈ t.paths, p.Lacks t.pathTree path := by
  have hfront : ∀ front, ¬ t.pathTree.Covers front ↔ ∀ path ∈ t.paths, ¬ path <+: front := by
    intro front
    rw [pathTree, PathTree.covers_ofPaths]
    simp
  constructor
  · rintro ⟨front, name, hmem, hnone, q, items, hq, hcontent, hany⟩
    exact ⟨front ++ [name], hmem, items, ⟨front, name, q, rfl, (hfront front).mpr hnone, hq, hcontent⟩, hany⟩
  · rintro ⟨path, hmem, items, ⟨front, name, q, rfl, hnot, hq, hcontent⟩, hany⟩
    exact ⟨front, name, hmem, (hfront front).mp hnot, q, items, hq, hcontent, hany⟩

/-! ## Arguments at paths that lead to the same or to lists -/

/-- The path leads to the same in both values, or to a list in each of them. -/
def SameOrLists (v w : Value) (path : List String) : Prop :=
  v.lookup? path = w.lookup? path ∨ ∃ vs ws, v.lookup? path = some (.list vs) ∧ w.lookup? path = some (.list ws)

/-- Paths that lead to the same have the same arguments. -/
theorem arguments_congr {policy : MissingValue} {v w : Value} {paths : List (List String)}
    (h : ∀ path ∈ paths, v.lookup? path = w.lookup? path) : arguments policy v paths = arguments policy w paths := by
  induction paths with
  | nil => rfl
  | cons path paths ih =>
    rw [arguments, arguments, h path List.mem_cons_self, ih fun p hp => h p (List.mem_cons_of_mem _ hp)]

/-- Lists are bound, so an argument that cannot be bound in one value cannot be bound in the other. -/
theorem arguments_eq_error {policy : MissingValue} {v w : Value} {paths : List (List String)}
    (h : ∀ path ∈ paths, SameOrLists v w path) {e : Error} (he : arguments policy w paths = .error e) :
    arguments policy v paths = .error e := by
  induction paths with
  | nil => cases he
  | cons path paths ih =>
    rw [arguments]
    have hhead := h path List.mem_cons_self
    rcases bind_eq_error.mp he with he | ⟨argument, hargument, he⟩
    · rcases hhead with heq | ⟨vs, ws, _, hws⟩
      · rw [heq, he]
        rfl
      · rw [hws] at he
        cases he
    · rcases bind_eq_error.mp he with he | ⟨_, _, he⟩
      · have hrest := ih (fun p hp => h p (List.mem_cons_of_mem _ hp)) he
        rcases hhead with heq | ⟨vs, ws, hvs, _⟩
        · rw [heq, hargument, hrest]
          rfl
        · rw [hvs, hrest]
          rfl
      · cases he

/-- Paths that have the same arguments in both values lead to the same. -/
theorem lookup?_of_arguments {policy : MissingValue} {v w : Value} {paths : List (List String)}
    (h : ∀ path ∈ paths, SameOrLists v w path) {bound : List Value} (hv : arguments policy v paths = .ok bound)
    (hw : arguments policy w paths = .ok bound) : ∀ path ∈ paths, v.lookup? path = w.lookup? path := by
  induction paths generalizing bound with
  | nil => simp
  | cons path paths ih =>
    obtain ⟨a, ha, hv⟩ := bind_eq_ok.mp hv
    obtain ⟨as, has, hv⟩ := bind_eq_ok.mp hv
    cases hv
    obtain ⟨b, hb, hw⟩ := bind_eq_ok.mp hw
    obtain ⟨bs, hbs, hw⟩ := bind_eq_ok.mp hw
    cases hw
    intro other hother
    rcases List.mem_cons.mp hother with rfl | hother
    · rcases h _ List.mem_cons_self with heq | ⟨vs, ws, hvs, hws⟩
      · exact heq
      · rw [hvs] at ha ⊢
        rw [hws] at hb ⊢
        cases ha
        cases hb
        rfl
    · exact ih (fun p hp => h p (List.mem_cons_of_mem _ hp)) has hbs other hother

/-- Rendering fails where an argument cannot be bound. -/
theorem render_eq_error {t : StaticTemplate} {options : Options} {v : Value} {e : Error} :
    t.render options v = .error e ↔ arguments options.missingValue v t.paths = .error e := by
  rw [render, bind_eq_error]
  constructor
  · rintro (h | ⟨_, _, h⟩)
    · exact h
    · cases h
  · exact Or.inl

/-- A rendered query has the arguments at the paths of the template. -/
theorem arguments_of_render {t : StaticTemplate} {options : Options} {v : Value} {r : Rendered}
    (h : t.render options v = .ok r) : arguments options.missingValue v t.paths = .ok r.arguments := by
  obtain ⟨bound, hbound, h⟩ := bind_eq_ok.mp h
  cases h
  exact hbound

/-! ## The two values compared -/

/-- A parameter that can be converted as a whole can be converted for a template. The query is then the one that the whole
value gives, exactly if that one fails or nothing is curtailed. -/
theorem render_convert_iff (t : StaticTemplate) (p : Parameter) {full : Value} (h : p.toValue = .ok full) :
    ∃ v, t.convert p = .ok v ∧ ∀ options : Options,
      t.render options v = t.render options full ↔ (∃ e, t.render options full = .error e) ∨ ¬ t.Curtails p := by
  obtain ⟨v, hv⟩ := Parameter.exists_convert t.pathTree p h
  refine ⟨v, hv, fun options => ?_⟩
  have hpaths : ∀ path ∈ t.paths, (v.lookup? path = full.lookup? path ∧ ¬ p.Lacks t.pathTree path) ∨
      (p.Lacks t.pathTree path ∧
        ∃ vs ws, v.lookup? path = some (.list vs) ∧ full.lookup? path = some (.list ws) ∧ vs ≠ ws) :=
    fun path hmem => Parameter.lookup?_convert_or hv h (covers_pathTree hmem)
  have hsame : ∀ path ∈ t.paths, SameOrLists v full path := by
    intro path hmem
    rcases hpaths path hmem with ⟨heq, _⟩ | ⟨_, vs, ws, hvs, hws, _⟩
    · exact Or.inl heq
    · exact Or.inr ⟨vs, ws, hvs, hws⟩
  constructor
  · intro heq
    cases hr : t.render options full with
    | error e => exact Or.inl ⟨e, rfl⟩
    | ok r =>
      right
      rw [curtails_iff]
      rintro ⟨path, hmem, hlacks⟩
      have hlookup := lookup?_of_arguments hsame (arguments_of_render (heq.trans hr)) (arguments_of_render hr) path hmem
      rcases hpaths path hmem with ⟨_, hnot⟩ | ⟨_, vs, ws, hvs, hws, hne⟩
      · exact hnot hlacks
      · rw [hvs, hws] at hlookup
        cases hlookup
        exact hne rfl
  · rintro (⟨e, he⟩ | hnot)
    · rw [he]
      exact render_eq_error.mpr (arguments_eq_error hsame (render_eq_error.mp he))
    · rw [curtails_iff] at hnot
      have hlookup : ∀ path ∈ t.paths, v.lookup? path = full.lookup? path := by
        intro path hmem
        rcases hpaths path hmem with ⟨heq, _⟩ | ⟨hlacks, _⟩
        · exact heq
        · exact absurd ⟨path, hmem, hlacks⟩ hnot
      rw [render, render, arguments_congr hlookup]

/-- A variant of one record, bound without its name: what is curtailed is the only field of the record. -/
theorem render_convert_iff_variant :
    (Parameter.variantList "Range" [.record [("a", .bool true)]]).toValue =
        .ok (.map [(.string "Range", .list [.record [("a", .bool true)]])]) ∧
      ∃ v, (StaticTemplate.mk "?" [["Range"]]).convert (.variantList "Range" [.record [("a", .bool true)]]) = .ok v ∧
        ∀ options : Options,
          (StaticTemplate.mk "?" [["Range"]]).render options v =
              (StaticTemplate.mk "?" [["Range"]]).render options
                (.map [(.string "Range", .list [.record [("a", .bool true)]])]) ↔
            (∃ e, (StaticTemplate.mk "?" [["Range"]]).render options
              (.map [(.string "Range", .list [.record [("a", .bool true)]])]) = .error e) ∨
            ¬ (StaticTemplate.mk "?" [["Range"]]).Curtails (.variantList "Range" [.record [("a", .bool true)]]) :=
  ⟨rfl, render_convert_iff ⟨"?", [["Range"]]⟩ (.variantList "Range" [.record [("a", .bool true)]]) rfl⟩

/-- There are templates and parameters for which conversion in part is not the same as conversion as a whole: of a variant
of one record the template loses the field. -/
theorem not_render_convert :
    ¬ ∀ (nodes : List Node) (t : StaticTemplate), compile nodes = .ok t →
      ∀ (p : Parameter) (full : Value), p.toValue = .ok full →
        ∃ v, t.convert p = .ok v ∧ ∀ options : Options, t.render options v = t.render options full := by
  intro h
  obtain ⟨v, hv, hrender⟩ := h [.action ⟨[], false, [[.field ["Range"]]]⟩] ⟨"?", [["Range"]]⟩ rfl
    (.variantList "Range" [.record [("a", .integer (.narrow (.i64 1)))]])
    (.map [(.string "Range", .list [.record [("a", .ofNat 1)]])]) rfl
  cases hv
  have hsame := hrender ⟨.error⟩
  cases hsame

end StaticTemplate

end QueryTemplate
