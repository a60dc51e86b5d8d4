import QueryTemplate.Proofs.Render.Json

/-!
# JSON becomes a value and JSON again

JSON has integers below zero apart from the others, no float that is not finite, and the names of an object in order, each
once (`Json.WellFormed`). Whatever a value becomes as JSON is of this form, and JSON of this form comes back from the value
that it becomes, at once or as a parameter that is converted (`Json.comes_back_iff`).
-/

namespace QueryTemplate

namespace Json

/-- JSON with its numbers each in one representation, and its names in order. -/
inductive WellFormed : Json → Prop where
  | null : WellFormed .null
  | bool (b : Bool) : WellFormed (.bool b)
  | natural (n : UInt64) : WellFormed (.natural n)
  | negative {n : Int64} : n.toInt < 0 → WellFormed (.negative n)
  | float {x : Binary64} : x.isFinite = true → WellFormed (.float x)
  | string (s : String) : WellFormed (.string s)
  | array {items : List Json} : (∀ item ∈ items, WellFormed item) → WellFormed (.array items)
  | object {members : List (String × Json)} : (members.Pairwise fun a b => a.1 < b.1) →
      (∀ member ∈ members, WellFormed member.2) → WellFormed (.object members)

/-! ## Members in order -/

theorem mem_insertMember {name : String} {value : Json} {members : List (String × Json)} {m : String × Json}
    (h : m ∈ insertMember name value members) : m = (name, value) ∨ m ∈ members := by
  induction members with
  | nil => exact Or.inl (List.mem_singleton.mp h)
  | cons head members ih =>
    obtain ⟨key, old⟩ := head
    rw [insertMember] at h
    split at h
    · rcases List.mem_cons.mp h with rfl | h
      · exact Or.inl rfl
      · exact Or.inr (List.mem_cons_of_mem _ h)
    · split at h
      · exact List.mem_cons.mp h
      · rcases List.mem_cons.mp h with rfl | h
        · exact Or.inr List.mem_cons_self
        · exact (ih h).imp_right (List.mem_cons_of_mem _)

/-- A member that is put in its place keeps the members in order. -/
theorem pairwise_insertMember (name : String) (value : Json) {members : List (String × Json)}
    (sorted : members.Pairwise fun a b => a.1 < b.1) :
    (insertMember name value members).Pairwise fun a b => a.1 < b.1 := by
  induction members with
  | nil => exact List.pairwise_singleton _ _
  | cons head members ih =>
    obtain ⟨key, old⟩ := head
    obtain ⟨hhead, htail⟩ := List.pairwise_cons.mp sorted
    rw [insertMember]
    split
    · rename_i hkey
      exact List.pairwise_cons.mpr ⟨hkey ▸ hhead, htail⟩
    · rename_i hkey
      split
      · rename_i hlt
        refine List.pairwise_cons.mpr ⟨?_, sorted⟩
        intro m hm
        rcases List.mem_cons.mp hm with rfl | hm
        · exact hlt
        · exact String.lt_trans hlt (hhead m hm)
      · rename_i hlt
        have hgt : key < name := by
          by_cases hgt : key < name
          · exact hgt
          · exact absurd (String.le_antisymm (String.not_lt.mp hlt) (String.not_lt.mp hgt)) hkey
        refine List.pairwise_cons.mpr ⟨?_, ih htail⟩
        intro m hm
        rcases mem_insertMember hm with rfl | hm
        · exact hgt
        · exact hhead m hm

/-- A member whose name is greater than all others comes last. -/
theorem insertMember_of_forall_lt {name : String} (value : Json) {members : List (String × Json)}
    (h : ∀ m ∈ members, m.1 < name) : insertMember name value members = members ++ [(name, value)] := by
  induction members with
  | nil => rfl
  | cons head members ih =>
    obtain ⟨key, old⟩ := head
    have hlt : key < name := h _ List.mem_cons_self
    have hne : key ≠ name := fun hkey => String.lt_irrefl name (hkey ▸ hlt)
    have hnlt : ¬name < key := fun hgt => String.lt_irrefl name (String.lt_trans hgt hlt)
    rw [insertMember, if_neg hne, if_neg hnlt, ih fun m hm => h m (List.mem_cons_of_mem _ hm)]
    rfl

/-- Members in order are the members of their object. -/
theorem ofMembers_of_pairwise {members : List (String × Json)} (sorted : members.Pairwise fun a b => a.1 < b.1) :
    ofMembers members = .object members := by
  suffices hfold : ∀ done : List (String × Json), ((done ++ members).Pairwise fun a b => a.1 < b.1) →
      members.foldl (fun sorted m => insertMember m.1 m.2 sorted) done = done ++ members from
    congrArg object (hfold [] sorted)
  clear sorted
  induction members with
  | nil => exact fun done _ => (List.append_nil done).symm
  | cons head members ih =>
    intro done sorted
    obtain ⟨name, value⟩ := head
    have hlast : ∀ m ∈ done, m.1 < name := fun m hm =>
      (List.pairwise_append.mp sorted).2.2 m hm _ List.mem_cons_self
    have happend : done ++ (name, value) :: members = done ++ [(name, value)] ++ members := by simp
    show members.foldl _ (insertMember name value done) = _
    rw [insertMember_of_forall_lt value hlast, happend]
    exact ih _ (happend ▸ sorted)

/-- An object has its names in order, whatever members it is made of. -/
theorem wellFormed_ofMembers {members : List (String × Json)} (h : ∀ member ∈ members, WellFormed member.2) :
    WellFormed (ofMembers members) := by
  suffices hfold : ∀ done : List (String × Json), (done.Pairwise fun a b => a.1 < b.1) →
      (∀ m ∈ done, WellFormed m.2) →
      WellFormed (.object (members.foldl (fun sorted m => insertMember m.1 m.2 sorted) done)) from
    hfold [] List.Pairwise.nil nofun
  induction members with
  | nil => exact fun done sorted hdone => WellFormed.object sorted hdone
  | cons head members ih =>
    intro done sorted hdone
    obtain ⟨name, value⟩ := head
    have hvalue : WellFormed value := h _ List.mem_cons_self
    have hrest : ∀ member ∈ members, WellFormed member.2 := fun m hm => h m (List.mem_cons_of_mem _ hm)
    refine ih hrest _ (pairwise_insertMember name value sorted) fun m hm => ?_
    rcases mem_insertMember hm with rfl | hm
    · exact hvalue
    · exact hdone m hm

/-! ## From JSON to JSON -/

/-- The representation of an unsigned number is that number again. -/
theorem ofNumber_ofUInt64 (n : UInt64) : ofNumber (.ofUInt64 n) = .natural n := by
  have hmax := Int64.toInt_maxValue
  rw [Number.ofUInt64]
  split
  · have hsigned : (Int64.ofNat n.toNat).toInt = n.toNat := Int64.toInt_ofNat_of_lt (by omega)
    have hnonneg : ¬(n.toNat : Int) < 0 := by omega
    rw [ofNumber, ofInt64, hsigned, if_neg hnonneg, Int.toNat_natCast, UInt64.ofNat_toNat]
  · rfl

mutual

/-- JSON comes back from the value that it becomes. -/
theorem ofValue?_ofJson {j : Json} (h : WellFormed j) : ofValue? (.ofJson j) = .ok j := by
  match j, h with
  | .null, _ | .bool _, _ | .string _, _ => rfl
  | .natural n, _ => exact congrArg Except.ok (ofNumber_ofUInt64 n)
  | .negative n, .negative hn => exact congrArg Except.ok (if_pos hn)
  | .float x, .float hx => exact congrArg Except.ok (if_pos hx)
  | .array items, .array hitems => exact bind_eq_ok.mpr ⟨items, ofItems?_ofJsonItems hitems, rfl⟩
  | .object members, .object sorted hmembers =>
    exact bind_eq_ok.mpr ⟨members, ofEntries?_ofJsonMembers hmembers, congrArg Except.ok (ofMembers_of_pairwise sorted)⟩

theorem ofItems?_ofJsonItems {items : List Json} (h : ∀ item ∈ items, WellFormed item) :
    ofItems? (Value.ofJsonItems items) = .ok items := by
  match items with
  | [] => rfl
  | item :: items =>
    have hitem := ofValue?_ofJson (h item List.mem_cons_self)
    have hitems := ofItems?_ofJsonItems fun other hother => h other (List.mem_cons_of_mem item hother)
    exact bind_eq_ok.mpr ⟨item, hitem, bind_eq_ok.mpr ⟨items, hitems, rfl⟩⟩

theorem ofEntries?_ofJsonMembers {members : List (String × Json)} (h : ∀ member ∈ members, WellFormed member.2) :
    ofEntries? (Value.ofJsonMembers members) = .ok members := by
  match members with
  | [] => rfl
  | (name, v) :: members =>
    have hvalue := ofValue?_ofJson (h (name, v) List.mem_cons_self)
    have hmembers := ofEntries?_ofJsonMembers fun other hother => h other (List.mem_cons_of_mem (name, v) hother)
    exact bind_eq_ok.mpr ⟨name, rfl, bind_eq_ok.mpr ⟨v, hvalue, bind_eq_ok.mpr ⟨members, hmembers, rfl⟩⟩⟩

end

/-! ## The JSON of values -/

theorem wellFormed_ofNumber (n : Number) : WellFormed (ofNumber n) := by
  cases n with
  | int n =>
    rw [ofNumber, ofInt64]
    split
    · exact WellFormed.negative ‹_›
    · exact WellFormed.natural _
  | uint n => exact WellFormed.natural n
  | float x =>
    rw [ofNumber]
    split
    · exact WellFormed.float ‹_›
    · exact WellFormed.null

mutual

/-- Whatever value JSON is made from, it is well-formed. -/
theorem wellFormed_of_ofValue? {v : Value} {j : Json} (h : ofValue? v = .ok j) : WellFormed j := by
  match v with
  | .null => cases h; exact WellFormed.null
  | .bool b => cases h; exact WellFormed.bool b
  | .number n => cases h; exact wellFormed_ofNumber n
  | .string s => cases h; exact WellFormed.string s
  | .bytes bs =>
    cases h
    refine WellFormed.array fun item hitem => ?_
    obtain ⟨b, -, rfl⟩ := List.mem_map.mp hitem
    exact WellFormed.natural _
  | .list items =>
    obtain ⟨jsons, hjsons, h⟩ := bind_eq_ok.mp h
    cases h
    exact WellFormed.array (wellFormed_of_ofItems? hjsons)
  | .map entries =>
    obtain ⟨members, hmembers, h⟩ := bind_eq_ok.mp h
    cases h
    exact wellFormed_ofMembers (wellFormed_of_ofEntries? hmembers)
  | .record fields =>
    obtain ⟨members, hmembers, h⟩ := bind_eq_ok.mp h
    cases h
    exact wellFormed_ofMembers (wellFormed_of_ofFields? hmembers)
  | .optional inner => exact wellFormed_of_ofValue? (v := inner) h
  | .unbindable message => cases h

theorem wellFormed_of_ofItems? {items : List Value} {jsons : List Json} (h : ofItems? items = .ok jsons) :
    ∀ json ∈ jsons, WellFormed json := by
  match items with
  | [] => cases h; exact nofun
  | item :: items =>
    obtain ⟨json, hjson, h⟩ := bind_eq_ok.mp h
    obtain ⟨rest, hrest, h⟩ := bind_eq_ok.mp h
    cases h
    exact List.forall_mem_cons.mpr ⟨wellFormed_of_ofValue? hjson, wellFormed_of_ofItems? hrest⟩

theorem wellFormed_of_ofEntries? {entries : List (Value × Value)} {members : List (String × Json)}
    (h : ofEntries? entries = .ok members) : ∀ member ∈ members, WellFormed member.2 := by
  match entries with
  | [] => cases h; exact nofun
  | (key, v) :: entries =>
    obtain ⟨name, -, h⟩ := bind_eq_ok.mp h
    obtain ⟨json, hjson, h⟩ := bind_eq_ok.mp h
    obtain ⟨rest, hrest, h⟩ := bind_eq_ok.mp h
    cases h
    exact List.forall_mem_cons.mpr ⟨wellFormed_of_ofValue? hjson, wellFormed_of_ofEntries? hrest⟩

theorem wellFormed_of_ofFields? {fields : List (String × Value)} {members : List (String × Json)}
    (h : ofFields? fields = .ok members) : ∀ member ∈ members, WellFormed member.2 := by
  match fields with
  | [] => cases h; exact nofun
  | (name, v) :: fields =>
    obtain ⟨json, hjson, h⟩ := bind_eq_ok.mp h
    obtain ⟨rest, hrest, h⟩ := bind_eq_ok.mp h
    cases h
    exact List.forall_mem_cons.mpr ⟨wellFormed_of_ofValue? hjson, wellFormed_of_ofFields? hrest⟩

end

/-! ## The main result -/

/-- JSON comes back from the value that it becomes at once, and from the value that it becomes as a parameter that is
converted, exactly if it is well-formed: if its negative integers are below zero, its floats are finite and the names of
its objects ascend. -/
theorem comes_back_iff (j : Json) :
    (ofValue? (.ofJson j) = .ok j ∧ ∃ v, (Parameter.ofJson j).toValue = .ok v ∧ ofValue? v = .ok j) ↔ j.WellFormed := by
  constructor
  · rintro ⟨h, -⟩
    exact wellFormed_of_ofValue? h
  · intro h
    have hback := ofValue?_ofJson h
    exact ⟨hback, .ofJson j, Parameter.toValue_ofJson j, hback⟩

/-- The greatest and the least integers, a zero below zero and an empty object come back. -/
theorem comes_back_at_bounds :
    ofValue? (.ofJson (.object [("", .array [.natural 0xFFFFFFFFFFFFFFFF, .negative .minValue,
        .float ⟨0x8000000000000000⟩]), ("a", .object [])])) =
      .ok (.object [("", .array [.natural 0xFFFFFFFFFFFFFFFF, .negative .minValue, .float ⟨0x8000000000000000⟩]),
        ("a", .object [])]) := by
  refine ((comes_back_iff _).mpr (WellFormed.object (by decide) ?_)).1
  have hnumbers : ∀ item ∈ [natural 0xFFFFFFFFFFFFFFFF, negative .minValue, float ⟨0x8000000000000000⟩],
      WellFormed item := by
    simp only [List.forall_mem_cons]
    exact ⟨WellFormed.natural _, WellFormed.negative (by decide), WellFormed.float (by decide), nofun⟩
  have hempty : WellFormed (.object []) := WellFormed.object List.Pairwise.nil nofun
  simp only [List.forall_mem_cons]
  exact ⟨WellFormed.array hnumbers, hempty, nofun⟩

end Json

end QueryTemplate
