import QueryTemplate.Proofs.Parameter.Described
import QueryTemplate.Proofs.Value.Blanked

/-!
# The normal form of a value

A value that describes itself is converted to its normal form (`Value.normal`): at any depth and in keys, the map of its
fields for a record and the one representation for an integer, and nothing else is changed. The normal form of a normal
form is itself (`Value.normal_normal`), and a path leads in it to the normal form of what it leads to in the value. Only
what cannot be bound keeps a value from being converted, wherever in the value it stands, and the error has the message
of the first in the order of description (`Value.messages`). `Parameter.reserializes` says so about every value.
-/

namespace QueryTemplate

/-- The one representation is its own. -/
theorem Number.normal_normal (n : Number) : n.normal.normal = n.normal := by
  cases n with
  | uint n => exact normal_of_represents (represents_ofUInt64 n)
  | _ => rfl

namespace Value

/-! ## The normal form -/

/-- The value with maps for records and with integers in their one representation. -/
def normal (v : Value) : Value :=
  v.recast Number.normal

section

variable {f : Number → Number}

mutual

/-- There are no records left to replace, so that numbers are all that a second replacement can change. -/
theorem recast_recast (hf : ∀ n, f (f n) = f n) (v : Value) : (v.recast f).recast f = v.recast f := by
  match v with
  | .null | .bool _ | .string _ | .bytes _ | .unbindable _ => rfl
  | .number n => exact congrArg Value.number (hf n)
  | .list items => exact congrArg Value.list (recastItems_recastItems hf items)
  | .map entries => exact congrArg Value.map (recastEntries_recastEntries hf entries)
  | .record fields => exact congrArg Value.map (recastEntries_recastFields hf fields)
  | .optional inner => exact congrArg Value.optional (recast_recast hf inner)

/-- A second replacement changes nothing in the elements of a list. -/
theorem recastItems_recastItems (hf : ∀ n, f (f n) = f n) (items : List Value) :
    recastItems f (recastItems f items) = recastItems f items := by
  match items with
  | [] => rfl
  | item :: items => simp only [recastItems, recast_recast hf item, recastItems_recastItems hf items]

/-- Nor does it in the entries of a map. -/
theorem recastEntries_recastEntries (hf : ∀ n, f (f n) = f n) (entries : List (Value × Value)) :
    recastEntries f (recastEntries f entries) = recastEntries f entries := by
  match entries with
  | [] => rfl
  | (key, v) :: entries =>
    simp only [recastEntries, recast_recast hf key, recast_recast hf v, recastEntries_recastEntries hf entries]

/-- Nor in the entries that the fields of a record have become. -/
theorem recastEntries_recastFields (hf : ∀ n, f (f n) = f n) (fields : List (String × Value)) :
    recastEntries f (recastFields f fields) = recastFields f fields := by
  match fields with
  | [] => rfl
  | (name, v) :: fields =>
    simp only [recastFields, recastEntries, recast_recast hf v, recastEntries_recastFields hf fields]
    rfl

end

end

/-- The normal form of a normal form is itself. -/
theorem normal_normal (v : Value) : v.normal.normal = v.normal :=
  recast_recast Number.normal_normal v

/-! ## What cannot be bound, in the order of description -/

mutual

/-- The messages of all parts of a value that cannot be bound, in the order in which the value describes itself:
elements, entries and fields one after the other, and of an entry the key before the value. -/
def messages : Value → List String
  | .list items => messagesOfItems items
  | .map entries => messagesOfEntries entries
  | .record fields => messagesOfFields fields
  | .optional inner => messages inner
  | .unbindable message => [message]
  | _ => []

/-- The messages of the elements of a list. -/
def messagesOfItems : List Value → List String
  | [] => []
  | item :: items => messages item ++ messagesOfItems items

/-- The messages of the entries of a map. -/
def messagesOfEntries : List (Value × Value) → List String
  | [] => []
  | (key, v) :: entries => messages key ++ (messages v ++ messagesOfEntries entries)

/-- The messages of the fields of a record. -/
def messagesOfFields : List (String × Value) → List String
  | [] => []
  | (_, v) :: fields => messages v ++ messagesOfFields fields

end

mutual

/-- The reason why a value cannot be bound with all its parts is the first of its messages. -/
theorem unbindable?_eq_head? (v : Value) : v.unbindable? = v.messages.head? := by
  match v with
  | .null | .bool _ | .number _ | .string _ | .bytes _ | .unbindable _ => rfl
  | .list items => exact unbindableOfItems?_eq_head? items
  | .map entries => exact unbindableOfEntries?_eq_head? entries
  | .record fields => exact unbindableOfFields?_eq_head? fields
  | .optional inner => exact unbindable?_eq_head? inner

/-- The reason is the first message of the elements. -/
theorem unbindableOfItems?_eq_head? (items : List Value) :
    unbindableOfItems? items = (messagesOfItems items).head? := by
  match items with
  | [] => rfl
  | item :: items =>
    rw [unbindableOfItems?, messagesOfItems, List.head?_append, unbindable?_eq_head? item,
      unbindableOfItems?_eq_head? items]

/-- The reason is the first message of the entries, keys before values. -/
theorem unbindableOfEntries?_eq_head? (entries : List (Value × Value)) :
    unbindableOfEntries? entries = (messagesOfEntries entries).head? := by
  match entries with
  | [] => rfl
  | (key, v) :: entries =>
    rw [unbindableOfEntries?, messagesOfEntries, List.head?_append, List.head?_append, unbindable?_eq_head? key,
      unbindable?_eq_head? v, unbindableOfEntries?_eq_head? entries]

/-- The reason is the first message of the fields. -/
theorem unbindableOfFields?_eq_head? (fields : List (String × Value)) :
    unbindableOfFields? fields = (messagesOfFields fields).head? := by
  match fields with
  | [] => rfl
  | (name, v) :: fields =>
    rw [unbindableOfFields?, messagesOfFields, List.head?_append, unbindable?_eq_head? v,
      unbindableOfFields?_eq_head? fields]

end

/-- The messages of a list are those of its elements. -/
theorem messagesOfItems_eq_flatMap (items : List Value) : messagesOfItems items = items.flatMap messages := by
  induction items with
  | nil => rfl
  | cons item items ih => rw [messagesOfItems, ih, List.flatMap_cons]

/-- The messages of a map are those of its keys and values. -/
theorem messagesOfEntries_eq_flatMap (entries : List (Value × Value)) :
    messagesOfEntries entries = entries.flatMap fun entry => entry.1.messages ++ entry.2.messages := by
  induction entries with
  | nil => rfl
  | cons entry entries ih => rw [messagesOfEntries, ih, List.flatMap_cons, List.append_assoc]

/-- The messages of a record are those of its fields. -/
theorem messagesOfFields_eq_flatMap (fields : List (String × Value)) :
    messagesOfFields fields = fields.flatMap fun field => field.2.messages := by
  induction fields with
  | nil => rfl
  | cons field fields ih => rw [messagesOfFields, ih, List.flatMap_cons]

/-- The messages of a part are among those of the whole. -/
theorem Part.messages_subset {u v : Value} (h : Part u v) : u.messages ⊆ v.messages := by
  induction h with
  | itself => exact fun _ h => h
  | content _ ih => exact ih
  | item hitem _ ih =>
    intro message hmessage
    rw [messages, messagesOfItems_eq_flatMap]
    exact List.mem_flatMap.mpr ⟨_, hitem, ih hmessage⟩
  | key hentry _ ih =>
    intro message hmessage
    rw [messages, messagesOfEntries_eq_flatMap]
    exact List.mem_flatMap.mpr ⟨_, hentry, List.mem_append_left _ (ih hmessage)⟩
  | value hentry _ ih =>
    intro message hmessage
    rw [messages, messagesOfEntries_eq_flatMap]
    exact List.mem_flatMap.mpr ⟨_, hentry, List.mem_append_right _ (ih hmessage)⟩
  | field hfield _ ih =>
    intro message hmessage
    rw [messages, messagesOfFields_eq_flatMap]
    exact List.mem_flatMap.mpr ⟨_, hfield, ih hmessage⟩

mutual

/-- A message of a value is that of one of its parts. -/
theorem part_of_mem_messages {message : String} {v : Value} (h : message ∈ v.messages) :
    Part (.unbindable message) v := by
  match v with
  | .null | .bool _ | .number _ | .string _ | .bytes _ => cases h
  | .unbindable message' =>
    obtain rfl : message = message' := List.mem_singleton.mp h
    exact .itself _
  | .list items =>
    obtain ⟨item, hitem, hpart⟩ := part_of_mem_messagesOfItems h
    exact .item hitem hpart
  | .map entries =>
    obtain ⟨⟨key, v⟩, hentry, hpart | hpart⟩ := part_of_mem_messagesOfEntries h
    · exact .key hentry hpart
    · exact .value hentry hpart
  | .record fields =>
    obtain ⟨⟨name, v⟩, hfield, hpart⟩ := part_of_mem_messagesOfFields h
    exact .field hfield hpart
  | .optional inner => exact .content (part_of_mem_messages (v := inner) h)

/-- A message of the elements of a list has a part of one of them that gives it. -/
theorem part_of_mem_messagesOfItems {message : String} {items : List Value} (h : message ∈ messagesOfItems items) :
    ∃ item ∈ items, Part (.unbindable message) item := by
  match items with
  | [] => cases h
  | item :: items =>
    rcases List.mem_append.mp h with h | h
    · exact ⟨item, List.mem_cons_self, part_of_mem_messages h⟩
    · obtain ⟨item', hitem, hpart⟩ := part_of_mem_messagesOfItems h
      exact ⟨item', List.mem_cons_of_mem _ hitem, hpart⟩

/-- A message of the entries of a map has a part of a key or a value that gives it. -/
theorem part_of_mem_messagesOfEntries {message : String} {entries : List (Value × Value)}
    (h : message ∈ messagesOfEntries entries) :
    ∃ entry ∈ entries, Part (.unbindable message) entry.1 ∨ Part (.unbindable message) entry.2 := by
  match entries with
  | [] => cases h
  | (key, v) :: entries =>
    rcases List.mem_append.mp h with h | h
    · exact ⟨_, List.mem_cons_self, Or.inl (part_of_mem_messages h)⟩
    · rcases List.mem_append.mp h with h | h
      · exact ⟨_, List.mem_cons_self, Or.inr (part_of_mem_messages h)⟩
      · obtain ⟨entry, hentry, hpart⟩ := part_of_mem_messagesOfEntries h
        exact ⟨entry, List.mem_cons_of_mem _ hentry, hpart⟩

/-- A message of the fields of a record has a part of one of them that gives it. -/
theorem part_of_mem_messagesOfFields {message : String} {fields : List (String × Value)}
    (h : message ∈ messagesOfFields fields) : ∃ field ∈ fields, Part (.unbindable message) field.2 := by
  match fields with
  | [] => cases h
  | (name, v) :: fields =>
    rcases List.mem_append.mp h with h | h
    · exact ⟨_, List.mem_cons_self, part_of_mem_messages h⟩
    · obtain ⟨field, hfield, hpart⟩ := part_of_mem_messagesOfFields h
      exact ⟨field, List.mem_cons_of_mem _ hfield, hpart⟩

end

/-- The messages of a value are those of its parts that cannot be bound. -/
theorem mem_messages_iff {message : String} {v : Value} : message ∈ v.messages ↔ Part (.unbindable message) v := by
  constructor
  · exact part_of_mem_messages
  · exact fun h => h.messages_subset List.mem_cons_self

section

variable (f : Number → Number)

mutual

/-- What cannot be bound stays where it is. -/
theorem messages_recast (v : Value) : (v.recast f).messages = v.messages := by
  match v with
  | .null | .bool _ | .number _ | .string _ | .bytes _ | .unbindable _ => rfl
  | .list items => exact messagesOfItems_recastItems items
  | .map entries => exact messagesOfEntries_recastEntries entries
  | .record fields => exact messagesOfEntries_recastFields fields
  | .optional inner => exact messages_recast inner

/-- The elements of a list keep their messages. -/
theorem messagesOfItems_recastItems (items : List Value) :
    messagesOfItems (recastItems f items) = messagesOfItems items := by
  match items with
  | [] => rfl
  | item :: items =>
    rw [recastItems, messagesOfItems, messagesOfItems, messages_recast item, messagesOfItems_recastItems items]

/-- The entries of a map keep their messages. -/
theorem messagesOfEntries_recastEntries (entries : List (Value × Value)) :
    messagesOfEntries (recastEntries f entries) = messagesOfEntries entries := by
  match entries with
  | [] => rfl
  | (key, v) :: entries =>
    rw [recastEntries, messagesOfEntries, messagesOfEntries, messages_recast key, messages_recast v,
      messagesOfEntries_recastEntries entries]

/-- The name of a field becomes a key, which is a string and can be bound. -/
theorem messagesOfEntries_recastFields (fields : List (String × Value)) :
    messagesOfEntries (recastFields f fields) = messagesOfFields fields := by
  match fields with
  | [] => rfl
  | (name, v) :: fields =>
    rw [recastFields, messagesOfEntries, messagesOfFields, messages_recast v, messagesOfEntries_recastFields fields]
    rfl

end

end

end Value

/-! ## Conversion -/

namespace Parameter

/-- A value is refused if it has messages, and then with the first of them. -/
theorem toValue_ofValue_eq_error {v : Value} {e : Error} :
    (ofValue v).toValue = .error e ↔ ∃ message, v.messages.head? = some message ∧ e = .conversion message := by
  rw [toValue_ofValue, Value.unbindable?_eq_head?]
  cases v.messages.head? with
  | none =>
    constructor
    · intro h
      cases h
    · rintro ⟨message, h, -⟩
      cases h
  | some message =>
    constructor
    · intro h
      cases h
      exact ⟨message, rfl, rfl⟩
    · rintro ⟨message', h, rfl⟩
      cases h
      rfl

/-- A value without messages is converted to its normal form. -/
theorem toValue_ofValue_eq_ok {v w : Value} : (ofValue v).toValue = .ok w ↔ v.messages = [] ∧ w = v.normal := by
  rw [toValue_ofValue, Value.unbindable?_eq_head?]
  cases v.messages with
  | nil =>
    constructor
    · intro h
      cases h
      exact ⟨rfl, rfl⟩
    · rintro ⟨-, rfl⟩
      rfl
  | cons message messages =>
    constructor
    · intro h
      cases h
    · rintro ⟨h, -⟩
      cases h

/-- Converting a value from its own description normalises it and does nothing else. It fails if and only if a part of
the value cannot be bound, keys included, and the message of the error is that of the first such part in the order of
description. Otherwise the result is the normal form of the value. The result is converted to itself, and what a path
leads to in it is the normal form of what the path leads to in the value; where the path leads nowhere in one of them,
it leads nowhere in the other. -/
theorem reserializes (v : Value) :
    (∀ message, message ∈ v.messages ↔ Value.Part (.unbindable message) v) ∧
      (∀ e, (ofValue v).toValue = .error e ↔
        ∃ message, v.messages.head? = some message ∧ e = .conversion message) ∧
      ((∀ message, ¬Value.Part (.unbindable message) v) → (ofValue v).toValue = .ok v.normal) ∧
      (∀ w, (ofValue v).toValue = .ok w →
        w = v.normal ∧ (ofValue w).toValue = .ok w ∧
          ∀ path, w.lookup? path = (v.lookup? path).map Value.normal) := by
  refine ⟨fun message => Value.mem_messages_iff, fun e => toValue_ofValue_eq_error, fun h => ?_, fun w h => ?_⟩
  · have hmessages : v.messages = [] :=
      List.eq_nil_iff_forall_not_mem.mpr fun message hmessage => h message (Value.mem_messages_iff.mp hmessage)
    exact toValue_ofValue_eq_ok.mpr ⟨hmessages, rfl⟩
  · obtain ⟨hmessages, rfl⟩ := toValue_ofValue_eq_ok.mp h
    have hagain : v.normal.messages = [] := (Value.messages_recast Number.normal v).trans hmessages
    refine ⟨rfl, ?_, fun path => Value.lookup?_recast _ path v⟩
    exact toValue_ofValue_eq_ok.mpr ⟨hagain, v.normal_normal.symm⟩

/-- Of two fields with one name both become entries, and a path leads to the first; an unsigned number stays unsigned
only if no signed number is it. Of an entry that cannot be bound at all, the key is what is reported. -/
theorem reserializes_duplicates :
    (∃ w, (ofValue (.record [("id", .optional (.number (.uint 7))), ("id", .null),
          ("of", .map [(.record [], .number (.uint 9223372036854775808))])])).toValue = .ok w ∧
        w = .map [(.string "id", .optional (.number (.int 7))), (.string "id", .null),
          (.string "of", .map [(.map [], .number (.uint 9223372036854775808))])] ∧
        (ofValue w).toValue = .ok w ∧ w.lookup? ["id"] = some (.optional (.number (.int 7)))) ∧
      (ofValue (.list [.null, .map [(.unbindable "key", .unbindable "value")]])).toValue =
        .error (.conversion "key") := by
  constructor
  · have hbindable : ∀ message, ¬Value.Part (.unbindable message) (.record [("id", .optional (.number (.uint 7))),
        ("id", .null), ("of", .map [(.record [], .number (.uint 9223372036854775808))])]) :=
      fun message h => nomatch Value.mem_messages_iff.mpr h
    obtain ⟨-, -, hconverted, hnormal⟩ := reserializes (.record [("id", .optional (.number (.uint 7))),
      ("id", .null), ("of", .map [(.record [], .number (.uint 9223372036854775808))])])
    obtain ⟨-, hagain, hlookup⟩ := hnormal _ (hconverted hbindable)
    exact ⟨_, hconverted hbindable, rfl, hagain, hlookup ["id"]⟩
  · obtain ⟨-, herror, -⟩ := reserializes (.list [.null, .map [(.unbindable "key", .unbindable "value")]])
    exact (herror _).mpr ⟨"key", rfl, rfl⟩

end Parameter

end QueryTemplate
