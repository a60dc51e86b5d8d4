import QueryTemplate.Proofs.Parameter.Pruned
import QueryTemplate.Proofs.PathTree.Cover

/-!
# The parts of a parameter

A path leads to the same place in a parameter and in its value (`Parameter.lookup?_convert`): what is found in the value
is what the part of the parameter is converted to, as a whole if the path is needed. The one exception is the content of a
variant of several values. Of its elements the parts under names are left out unless the variant itself is needed as a
whole (`Parameter.Curtailed`).
-/

namespace QueryTemplate

namespace Parameter

/-- The content of optional values and wrappers, through all layers; any other parameter itself. -/
def content : Parameter → Parameter
  | .optional inner => inner.content
  | .wrapper inner => inner.content
  | p => p

/-- Whether a key that waits for its value is this name. -/
def isKey (name : String) : Option Value → Bool
  | some (.string key) => key == name
  | _ => false

/-- The value that a map has under a name; the first one counts. -/
def entryAt? (name : String) (waiting : Option Value) : List (MapStep Parameter) → Option Parameter
  | [] => none
  | .key k :: steps => entryAt? name k.toValue.toOption steps
  | .value v :: steps => if isKey name waiting then some v else entryAt? name none steps

/-- The field of a record under a name; the first one counts. -/
def fieldAt? (name : String) : List (String × Parameter) → Option Parameter
  | [] => none
  | (key, v) :: fields => if key = name then some v else fieldAt? name fields

/-- The part of a parameter under a name. -/
def part? (name : String) (p : Parameter) : Option Parameter :=
  match p.content with
  | .variantOf key inner => if key = name then some inner else none
  | .variantList key items => if key = name then some (.list items) else none
  | .variantRecord key fields => if key = name then some (.record fields) else none
  | .map steps => entryAt? name none steps
  | .record fields => fieldAt? name fields
  | _ => none

/-- The part of a parameter that a path leads to. -/
def at? : List String → Parameter → Option Parameter
  | [], p => some p
  | name :: path, p => (p.part? name).bind (at? path)

/-- Whether a parameter is a variant of several values. -/
def isVariantList (p : Parameter) : Bool :=
  match p.content with
  | .variantList _ _ => true
  | _ => false

/-! ## Under one name -/

/-- What is needed under a string key is what is needed under the name. -/
theorem entryFor?_string (paths : PathTree) (name : String) : entryFor? paths (.string name) = paths.entry? name := by
  cases paths <;> rfl

/-- An entry under another key is passed over. -/
theorem entry?_cons_of_not_isKey {name : String} {key : Value} (h : isKey name (some key) = false) (v : Value)
    (entries : List (Value × Value)) : Value.entry? name ((key, v) :: entries) = Value.entry? name entries := by
  cases key with
  | string key =>
    have hne : key ≠ name := by simpa [isKey] using h
    rw [Value.entry?, if_neg hne]
  | _ => rfl

/-- The entry of a map under a needed name is what the value under the name is converted to. -/
theorem entry?_convertSteps {paths below : PathTree} {name : String} (hbelow : paths.entry? name = some below)
    {waiting : Option Value} {steps : List (MapStep Parameter)} {entries : List (Value × Value)}
    (h : convertSteps paths waiting steps = .ok entries) :
    Option.Rel (fun q w => convert below q = .ok w) (entryAt? name waiting steps) (Value.entry? name entries) := by
  induction steps generalizing waiting entries with
  | nil => cases h; exact Option.Rel.none
  | cons step steps ih =>
    cases step with
    | key k =>
      obtain ⟨key, hkey, h⟩ := bind_eq_ok.mp h
      rw [entryAt?, toValue, hkey]
      exact ih h
    | value v =>
      cases waiting with
      | none => cases h
      | some key =>
        rw [entryAt?]
        rw [convertSteps] at h
        cases hkey : isKey name (some key) with
        | true =>
          obtain rfl : key = .string name := by
            cases key with
            | string key => rw [beq_iff_eq.mp hkey]
            | _ => cases hkey
          rw [entryFor?_string, hbelow] at h
          obtain ⟨w, hw, h⟩ := bind_eq_ok.mp h
          obtain ⟨rest, _, h⟩ := bind_eq_ok.mp h
          cases h
          rw [if_pos rfl, Value.entry?, if_pos rfl]
          exact Option.Rel.some hw
        | false =>
          rw [if_neg (by simp)]
          cases hneeded : entryFor? paths key with
          | none =>
            rw [hneeded] at h
            exact ih h
          | some other =>
            rw [hneeded] at h
            obtain ⟨w, _, h⟩ := bind_eq_ok.mp h
            obtain ⟨rest, hrest, h⟩ := bind_eq_ok.mp h
            cases h
            rw [entry?_cons_of_not_isKey hkey]
            exact ih hrest

/-- The field of a record under a needed name is what the field of the parameter is converted to. -/
theorem field?_convertFields {paths below : PathTree} {name : String} (hbelow : paths.entry? name = some below)
    {fields : List (String × Parameter)} {vs : List (String × Value)} (h : convertFields paths fields = .ok vs) :
    Option.Rel (fun q w => convert below q = .ok w) (fieldAt? name fields) (Value.field? name vs) := by
  induction fields generalizing vs with
  | nil => cases h; exact Option.Rel.none
  | cons field fields ih =>
    obtain ⟨key, v⟩ := field
    rw [fieldAt?]
    rw [convertFields] at h
    by_cases hkey : key = name
    · subst hkey
      rw [hbelow] at h
      obtain ⟨w, hw, h⟩ := bind_eq_ok.mp h
      obtain ⟨rest, _, h⟩ := bind_eq_ok.mp h
      cases h
      rw [if_pos rfl, Value.field?, if_pos rfl]
      exact Option.Rel.some hw
    · rw [if_neg hkey]
      cases hneeded : paths.entry? key with
      | none =>
        rw [hneeded] at h
        exact ih h
      | some other =>
        rw [hneeded] at h
        obtain ⟨w, _, h⟩ := bind_eq_ok.mp h
        obtain ⟨rest, hrest, h⟩ := bind_eq_ok.mp h
        cases h
        rw [Value.field?, if_neg hkey]
        exact ih hrest

/-- A map with one entry leads on under the name of the entry only. -/
theorem get?_entry (key name : String) (v : Value) :
    (Value.map [(.string key, v)]).get? name = if key = name then some v else none := rfl

/-- Nothing leads on from an integer. -/
theorem get?_of_convertInteger {n : MachineInt} {v : Value} (h : convertInteger n = .ok v) (name : String) :
    v.get? name = none := by
  rw [convertInteger] at h
  split at h
  · cases h
    rfl
  · cases h

/-- A variant with fields is converted like a variant around a record of them. -/
theorem convert_variantRecord (paths : PathTree) (name : String) (fields : List (String × Parameter)) :
    convert paths (.variantRecord name fields) = convert paths (.variantOf name (.record fields)) := by
  rw [convert, convert]
  cases paths.entry? name with
  | none => rfl
  | some below =>
    simp only [convert]
    cases convertFields below fields <;> rfl

/-- The content of a variant under a needed name is converted for what is needed below the name. -/
theorem get?_variantOf {paths below : PathTree} {name key : String} (hbelow : paths.entry? name = some below)
    {inner : Parameter} {v : Value} (h : convert paths (.variantOf key inner) = .ok v) :
    Option.Rel (fun q w => convert below q = .ok w) (if key = name then some inner else none) (v.get? name) := by
  rw [convert] at h
  by_cases hkey : key = name
  · rw [hkey, hbelow] at h
    obtain ⟨w, hw, h⟩ := bind_eq_ok.mp h
    cases h
    rw [if_pos hkey, get?_entry, if_pos rfl]
    exact Option.Rel.some hw
  · rw [if_neg hkey]
    cases hneeded : paths.entry? key with
    | none =>
      rw [hneeded] at h
      cases h
      exact Option.Rel.none
    | some other =>
      rw [hneeded] at h
      obtain ⟨w, _, h⟩ := bind_eq_ok.mp h
      cases h
      rw [get?_entry, if_neg hkey]
      exact Option.Rel.none

/-- The content of a variant of several values is converted like a list, for what is needed of the variant. -/
theorem get?_variantList {paths : PathTree} {key : String} {items : List Parameter} {v : Value}
    (h : convert paths (.variantList key items) = .ok v) (name : String) :
    Option.Rel (fun q w => convert paths q = .ok w) (if key = name then some (.list items) else none)
      (v.get? name) := by
  obtain ⟨vs, hvs, h⟩ := bind_eq_ok.mp h
  cases h
  rw [get?_entry]
  by_cases hkey : key = name
  · rw [if_pos hkey, if_pos hkey]
    exact Option.Rel.some (bind_eq_ok.mpr ⟨vs, hvs, rfl⟩)
  · rw [if_neg hkey, if_neg hkey]
    exact Option.Rel.none

/-- What is converted for the part of a parameter under a needed name: what is needed below the name, except in a variant
of several values, where it is what is needed of the variant. -/
def neededFor (p : Parameter) (paths below : PathTree) : PathTree :=
  if p.isVariantList then paths else below

/-- The part of a value under a needed name is what the part of the parameter is converted to. -/
theorem get?_convert {paths below : PathTree} {name : String} (hbelow : paths.entry? name = some below)
    {p : Parameter} {v : Value} (h : convert paths p = .ok v) :
    Option.Rel (fun q w => convert (p.neededFor paths below) q = .ok w) (p.part? name) (v.get? name) := by
  induction p using content.induct generalizing v with
  | case1 inner ih =>
    obtain ⟨u, hu, h⟩ := bind_eq_ok.mp h
    cases h
    have hinner := ih hu
    exact hinner
  | case2 inner ih => exact ih h
  | case3 p hoptional hwrapper =>
    cases p with
    | optional inner => exact absurd rfl (hoptional inner)
    | wrapper inner => exact absurd rfl (hwrapper inner)
    | variantOf key inner => exact get?_variantOf hbelow h
    | variantList key items => exact get?_variantList h name
    | variantRecord key fields =>
      rw [convert_variantRecord] at h
      exact get?_variantOf hbelow h
    | map steps =>
      obtain ⟨entries, hentries, h⟩ := bind_eq_ok.mp h
      cases h
      exact entry?_convertSteps hbelow hentries
    | record fields =>
      obtain ⟨vs, hvs, h⟩ := bind_eq_ok.mp h
      cases h
      exact field?_convertFields hbelow hvs
    | list items =>
      obtain ⟨vs, hvs, h⟩ := bind_eq_ok.mp h
      cases h
      exact Option.Rel.none
    | unbindable content =>
      obtain ⟨w, hw, h⟩ := bind_eq_ok.mp h
      cases h
      exact Option.Rel.none
    | integer n =>
      rw [get?_of_convertInteger h]
      exact Option.Rel.none
    | refused message => cases h
    | _ => cases h; exact Option.Rel.none

/-! ## Along a path -/

/-- A path in two parts is followed one part after the other. -/
theorem at?_append (front back : List String) (p : Parameter) :
    p.at? (front ++ back) = (p.at? front).bind (at? back) := by
  induction front generalizing p with
  | nil => rfl
  | cons name front ih =>
    rw [List.cons_append, at?, at?]
    cases p.part? name with
    | none => rfl
    | some q => exact ih q

/-- The path leads to the content of a variant of several values, and no path leads to the variant or to what it is part
of. -/
def Curtailed (paths : PathTree) (p : Parameter) (path : List String) (items : List Parameter) : Prop :=
  ∃ front name q, path = front ++ [name] ∧ ¬ paths.Covers front ∧ p.at? front = some q ∧
    q.content = .variantList name items

/-- The value of the part that a needed path leads to: what the part is converted to as a whole, or, of the elements of a
curtailed variant, without their parts under names. -/
def IsValueAt (paths : PathTree) (p : Parameter) (path : List String) (q : Parameter) (w : Value) : Prop :=
  ((∀ items, ¬ Curtailed paths p path items) ∧ convert .whole q = .ok w) ∨
    ∃ items, Curtailed paths p path items ∧ q = .list items ∧ convert .empty q = .ok w

/-- A path through a part that is no variant of several values goes on below the part. -/
theorem curtailed_cons {paths below : PathTree} {p q : Parameter} {name : String}
    (hbelow : paths.entry? name = some below) (hpart : p.part? name = some q) (hp : p.isVariantList = false)
    (path : List String) (items : List Parameter) :
    Curtailed paths p (name :: path) items ↔ Curtailed below q path items := by
  have hcovers : ∀ front, paths.Covers (name :: front) ↔ below.Covers front := by
    intro front
    rw [PathTree.Covers, PathTree.at?, hbelow]
    rfl
  have hat : ∀ front, p.at? (name :: front) = q.at? front := by
    intro front
    rw [at?, hpart]
    rfl
  constructor
  · rintro ⟨front, last, r, hpath, hfront, hr, hcontent⟩
    cases front with
    | nil =>
      cases hr
      rw [isVariantList, hcontent] at hp
      cases hp
    | cons head front =>
      simp only [List.cons_append, List.cons.injEq] at hpath
      obtain ⟨rfl, hpath⟩ := hpath
      exact ⟨front, last, r, hpath, fun h => hfront ((hcovers front).mpr h), by rw [← hat, hr], hcontent⟩
  · rintro ⟨front, last, r, rfl, hfront, hr, hcontent⟩
    exact ⟨name :: front, last, r, rfl, fun h => hfront ((hcovers front).mp h), by rw [hat, hr], hcontent⟩

/-- The part of a variant of several values is the list of them. -/
theorem content_of_part? {p q : Parameter} {name : String} (hp : p.isVariantList = true)
    (h : p.part? name = some q) : ∃ items, q = .list items ∧ p.content = .variantList name items := by
  rw [isVariantList] at hp
  rw [part?] at h
  cases hcontent : p.content with
  | variantList key items =>
    simp only [hcontent] at h
    by_cases hkey : key = name
    · rw [if_pos hkey] at h
      cases h
      exact ⟨items, rfl, by rw [hkey]⟩
    · rw [if_neg hkey] at h
      cases h
  | _ => rw [hcontent] at hp; cases hp

/-- The elements of a variant are converted like those of a list: as a whole if the variant is needed as a whole, and
otherwise without their parts under names. Nothing is found below them. -/
theorem lookup?_convert_elements {paths : PathTree} {p : Parameter} {name : String} {items : List Parameter} {w : Value}
    (hcontent : p.content = .variantList name items) (h : convert paths (.list items) = .ok w) (path : List String) :
    Option.Rel (IsValueAt paths p (name :: path)) ((Parameter.list items).at? path) (w.lookup? path) := by
  cases path with
  | nil =>
    refine Option.Rel.some ?_
    cases paths with
    | whole =>
      left
      refine ⟨?_, h⟩
      rintro items ⟨front, _, _, _, hfront, _⟩
      exact hfront (PathTree.covers_whole front)
    | branch children =>
      right
      exact ⟨items, ⟨[], name, p, rfl, PathTree.not_covers_branch_nil children, rfl, hcontent⟩, rfl, h⟩
  | cons other path =>
    obtain ⟨vs, _, h⟩ := bind_eq_ok.mp h
    cases h
    exact Option.Rel.none

/-- A needed path leads in a value to the value of the part that it leads to in the parameter. -/
theorem lookup?_convert {paths : PathTree} {p : Parameter} {v : Value} (h : convert paths p = .ok v)
    {path : List String} (hpath : paths.Covers path) :
    Option.Rel (IsValueAt paths p path) (p.at? path) (v.lookup? path) := by
  induction path generalizing paths p v with
  | nil =>
    obtain rfl : paths = .whole := Option.some.inj hpath
    refine Option.Rel.some (Or.inl ⟨?_, h⟩)
    rintro items ⟨front, name, q, hnil, _⟩
    cases front <;> cases hnil
  | cons name path ih =>
    rw [PathTree.Covers, PathTree.at?] at hpath
    obtain ⟨below, hbelow, hpath⟩ := Option.bind_eq_some_iff.mp hpath
    have hpart := get?_convert hbelow h
    rw [at?, Value.lookup?]
    cases hq : p.part? name with
    | none =>
      rw [hq] at hpart
      cases hw : v.get? name with
      | none => exact Option.Rel.none
      | some w => rw [hw] at hpart; cases hpart
    | some q =>
      rw [hq] at hpart
      cases hw : v.get? name with
      | none => rw [hw] at hpart; cases hpart
      | some w =>
        rw [hw] at hpart
        have hconvert : convert (p.neededFor paths below) q = .ok w := by simpa using hpart
        cases hp : p.isVariantList with
        | false =>
          rw [neededFor, hp, if_neg Bool.false_ne_true] at hconvert
          have hiff : IsValueAt paths p (name :: path) = IsValueAt below q path := by
            funext r u
            simp only [IsValueAt, curtailed_cons hbelow hq hp]
          rw [hiff]
          exact ih hconvert hpath
        | true =>
          rw [neededFor, hp, if_pos rfl] at hconvert
          obtain ⟨items, rfl, hcontent⟩ := content_of_part? hp hq
          exact lookup?_convert_elements hcontent hconvert path

/-- The content of a curtailed variant is the list of its elements. -/
theorem at?_of_curtailed {paths : PathTree} {p : Parameter} {path : List String} {items : List Parameter}
    (h : Curtailed paths p path items) : p.at? path = some (.list items) := by
  obtain ⟨front, name, q, rfl, _, hq, hcontent⟩ := h
  rw [at?_append, hq]
  simp [at?, part?, hcontent]

/-- A path leads in a whole value to what the part of the parameter is converted to. -/
theorem lookup?_convert_whole {p : Parameter} {full : Value} (h : convert .whole p = .ok full) (path : List String) :
    Option.Rel (fun q w => convert .whole q = .ok w) (p.at? path) (full.lookup? path) := by
  have hpart := lookup?_convert h (PathTree.covers_whole path)
  generalize p.at? path = x, full.lookup? path = y at hpart
  cases hpart with
  | none => exact Option.Rel.none
  | some hw =>
    rcases hw with ⟨_, hw⟩ | ⟨items, ⟨front, _, _, _, hfront, _⟩, _⟩
    · exact Option.Rel.some hw
    · exact absurd (PathTree.covers_whole front) hfront

/-- The elements of a curtailed variant lack parts under names. -/
def Lacks (paths : PathTree) (p : Parameter) (path : List String) : Prop :=
  ∃ items, Curtailed paths p path items ∧ anyNamedPart items = true

/-- Where no part is a variant of several values nothing is lacking. -/
theorem not_lacks_of_closed {S : Parameter → Prop} (hpart : ∀ p name q, S p → p.part? name = some q → S q)
    (hcontent : ∀ p name items, S p → p.content ≠ .variantList name items) {p : Parameter} (hp : S p)
    (paths : PathTree) (path : List String) : ¬Lacks paths p path := by
  have hparts : ∀ front {p q : Parameter}, S p → p.at? front = some q → S q := by
    intro front
    induction front with
    | nil => exact fun hp hq => Option.some.inj hq ▸ hp
    | cons name front ih =>
      intro p q hp hq
      obtain ⟨r, hr, hq⟩ := Option.bind_eq_some_iff.mp hq
      exact ih (hpart p name r hp hr) hq
  rintro ⟨items, ⟨front, name, q, -, -, hq, hvariant⟩, -⟩
  exact hcontent q name items (hparts front hp hq) hvariant

/-- A needed path leads to the same in the value for the needed paths as in the whole value, except to the elements of a
curtailed variant with parts under names: there the two are different lists. -/
theorem lookup?_convert_or {paths : PathTree} {p : Parameter} {v full : Value} (h : convert paths p = .ok v)
    (hfull : convert .whole p = .ok full) {path : List String} (hpath : paths.Covers path) :
    (v.lookup? path = full.lookup? path ∧ ¬ Lacks paths p path) ∨
      (Lacks paths p path ∧
        ∃ vs ws, v.lookup? path = some (.list vs) ∧ full.lookup? path = some (.list ws) ∧ vs ≠ ws) := by
  have hpart := lookup?_convert h hpath
  have hpartFull := lookup?_convert_whole hfull path
  -- what lacks parts is the list of the elements, found at the path
  have hlacks : ∀ items, Curtailed paths p path items → p.at? path = some (.list items) :=
    fun items hcurtailed => at?_of_curtailed hcurtailed
  generalize p.at? path = x, v.lookup? path = y, full.lookup? path = z at hpart hpartFull hlacks
  cases hpart with
  | none =>
    cases hpartFull
    refine Or.inl ⟨rfl, ?_⟩
    rintro ⟨items, hcurtailed, _⟩
    cases hlacks items hcurtailed
  | @some q w hw =>
    cases hpartFull with
    | @some _ u hu =>
      rcases hw with ⟨hnot, hw⟩ | ⟨items, hcurtailed, rfl, hw⟩
      · refine Or.inl ⟨by rw [Except.ok.inj (hw.symm.trans hu)], ?_⟩
        rintro ⟨items, hcurtailed, _⟩
        exact hnot items hcurtailed
      · obtain ⟨_, hiff⟩ := reduced_of_convert (.list items) hu hw
        obtain ⟨vs, _, hw⟩ := bind_eq_ok.mp hw
        obtain ⟨ws, _, hu⟩ := bind_eq_ok.mp hu
        cases hw
        cases hu
        rw [hasNamedPart] at hiff
        cases hany : anyNamedPart items with
        | false =>
          refine Or.inl ⟨congrArg some (hiff.mpr hany), ?_⟩
          rintro ⟨items', hcurtailed', hany'⟩
          cases hlacks items' hcurtailed'
          rw [hany] at hany'
          cases hany'
        | true =>
          refine Or.inr ⟨⟨items, hcurtailed, hany⟩, vs, ws, rfl, rfl, ?_⟩
          rintro rfl
          rw [hiff.mp rfl] at hany
          cases hany

end Parameter

end QueryTemplate
