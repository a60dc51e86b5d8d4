import Mathlib.Algebra.Ring.Nat
import QueryTemplate.Proofs.Render.Exposed
import QueryTemplate.Proofs.Render.Writing
import QueryTemplate.Template

/-!
# Lists of placeholders

A loop with variables for the index and the element writes a separator before every element but the first if it asks
whether the index holds, since the first index is the only one that does not (`DynamicTemplate.renderNode_listing`). The
template for `IN` does so for any list (`Template.in_list_rendered`); for an empty one it leaves the parentheses empty.
-/

namespace QueryTemplate

/-- Of the indices of a list only the first, zero, does not hold. They are kept in 64 bits, so the next one that does
not would be `2 ^ 64`. -/
theorem Value.isTruthy_ofNat {i : Nat} (h : i < 2 ^ 64) : (ofNat i).isTruthy = (i != 0) := by
  have hzero : Int64.ofNat i = 0 ↔ i = 0 := by
    rw [← Int64.toBitVec_inj, Int64.toBitVec_ofNat', ← BitVec.toNat_inj, BitVec.toNat_ofNat, Nat.mod_eq_of_lt h]
    rfl
  show (!(Int64.ofNat i == 0)) = (i != 0)
  rw [bne, Bool.beq_eq_decide_eq, Bool.beq_eq_decide_eq]
  simp only [hzero]

/-- Texts with a separator between them: each but the first comes after the separator. -/
theorem intercalate_cons (separator s : String) (texts : List String) :
    separator.intercalate (s :: texts) = s ++ String.join (texts.map (separator ++ ·)) := by
  induction texts generalizing s with
  | nil => rw [String.intercalate_singleton, List.map_nil, String.join_nil, String.append_empty]
  | cons t texts ih =>
    rw [String.intercalate_cons_cons, ih, List.map_cons, String.join_cons, String.append_assoc, String.append_assoc]

namespace DynamicTemplate

/-! ## Lists of elements -/

/-- The body of a loop that lists elements: the separator if the key holds, and the element. -/
def listingBody (keyName name separator : String) : List Node :=
  [.block .cond ⟨[], false, [[.variable keyName []]]⟩ [.text separator] [],
    .action ⟨[], false, [[.variable name []]]⟩]

/-- A loop that lists the elements of a collection. -/
def listing (keyName name separator : String) (collection : Operand) : Node :=
  .block .loop ⟨[keyName, name], false, [[collection]]⟩ (listingBody keyName name separator) []

/-- What an element with its key adds to the list. -/
def listed (separator : String) (pair : Value × Value) : Rendered :=
  ⟨(if pair.1.isTruthy then separator else "") ++ placeholder, [pair.2.peel]⟩

variable {policy : MissingValue} {env : Env}

/-- An action on what can be bound is rendered to a placeholder with it. -/
theorem renderNode_argument {pipeline : Pipeline} {operand : Operand} {v : Value}
    (hoperand : Pipeline.outputOperand pipeline = .ok operand) (htext : operand.literalText? = none)
    (heval : env.eval operand = .ok (some v)) (hv : ∀ message, v.peel ≠ .unbindable message) :
    renderNode policy env (.action pipeline) = .ok (.ofArgument v.peel) := by
  have hargument : Value.extract policy operand.text (some v) = .ok v.peel := Value.toArgument_eq_ok.mpr ⟨rfl, hv⟩
  rw [renderNode, renderAction_of_reference hoperand htext heval, hargument]
  rfl

/-- A text under a condition is there if the value holds. -/
theorem renderNode_cond_text {pipeline : Pipeline} {v : Value} (hv : blockValue env pipeline = .ok (some v))
    (s : String) :
    renderNode policy env (.block .cond pipeline [.text s] []) = .ok (.ofText (if v.isTruthy then s else "")) := by
  rw [renderNode, hv, ok_bind, holds]
  cases v.isTruthy with
  | true =>
    show (do return Rendered.ofText s ++ (← Except.ok Rendered.empty)) = Except.ok (Rendered.ofText s)
    exact congrArg Except.ok (Rendered.append_empty _)
  | false => rfl

/-- The body of the loop lists an element. -/
theorem renderElement_listing {keyName name separator : String} {pair : Value × Value} (hne : name ≠ keyName)
    (hpair : ∀ message, pair.2.peel ≠ .unbindable message) :
    renderElement policy env [keyName, name] (listingBody keyName name separator) pair =
      .ok (listed separator pair) := by
  obtain ⟨key, item⟩ := pair
  have hkey : blockValue (env.bindElement [keyName, name] key item) ⟨[], false, [[.variable keyName []]]⟩ =
      .ok (some key) := by
    have hget : (env.bindElement [keyName, name] key item).get? keyName = some key := (if_neg hne).trans (if_pos rfl)
    show Except.ok ((Env.get? _ keyName).bind some) = _
    rw [hget]
    rfl
  have hitem : (env.bindElement [keyName, name] key item).eval (.variable name []) = .ok (some item) := by
    have hget : (env.bindElement [keyName, name] key item).get? name = some item := if_pos rfl
    rw [Env.eval, hget]
    rfl
  rw [renderElement, listingBody, renderNodes, renderNode_cond_text hkey, ok_bind, renderNodes,
    renderNode_argument rfl rfl hitem hpair, ok_bind]
  rfl

/-- Elements after the first one are listed with a separator before each of them. -/
theorem map_listed_of_pos (separator : String) (items : List Value) {i : Nat} (hi : 0 < i)
    (h : i + items.length ≤ 2 ^ 64) :
    (indexed i items).map (listed separator) =
      items.map fun item => ⟨separator ++ placeholder, [item.peel]⟩ := by
  induction items generalizing i with
  | nil => rfl
  | cons item items ih =>
    rw [List.length_cons] at h
    have hholds : (Value.ofNat i).isTruthy = true := by
      rw [Value.isTruthy_ofNat (by omega), bne_iff_ne]
      omega
    have hlisted : listed separator (Value.ofNat i, item) = ⟨separator ++ placeholder, [item.peel]⟩ := by
      rw [listed, if_pos hholds]
    rw [indexed_cons, List.map_cons, hlisted, ih (by omega) (by omega)]
    rfl

/-- The elements of a list with their indices are listed with the separator between them. -/
theorem join_listed (separator : String) (item : Value) (items : List Value) (h : (item :: items).length ≤ 2 ^ 64) :
    Rendered.join ((indexed 0 (item :: items)).map (listed separator)) =
      ⟨separator.intercalate (List.replicate (item :: items).length placeholder), (item :: items).map Value.peel⟩ := by
  have hfirst : listed separator (Value.ofNat 0, item) = ⟨placeholder, [item.peel]⟩ := rfl
  have hquery : separator.intercalate (List.replicate (item :: items).length placeholder) =
      placeholder ++ String.join (items.map fun _ => separator ++ placeholder) := by
    rw [List.length_cons, List.replicate_succ, intercalate_cons, List.map_replicate, List.map_const']
  have harguments : items.map Value.peel = items.flatMap (fun item => [item.peel]) := List.map_eq_flatMap
  have hlater := map_listed_of_pos separator items Nat.one_pos (by rw [Nat.add_comm]; exact h)
  rw [indexed_cons, List.map_cons, hlater, hfirst, Rendered.join_cons, Rendered.join, List.map_map,
    List.flatMap_map, hquery, List.map_cons, harguments]
  rfl

/-- A loop over a list, with variables for the index and the element, lists the placeholders of the elements, separated
from each other. -/
theorem renderNode_listing {keyName name separator : String} {collection : Operand} {v : Value} {items : List Value}
    (hne : name ≠ keyName) (hv : blockValue env ⟨[keyName, name], false, [[collection]]⟩ = .ok (some v))
    (hitems : v.peel = .list items) (hlength : items.length ≤ 2 ^ 64)
    (hbindable : ∀ item ∈ items, ∀ message, item.peel ≠ .unbindable message) :
    renderNode policy env (listing keyName name separator collection) =
      .ok ⟨separator.intercalate (List.replicate items.length placeholder), items.map Value.peel⟩ := by
  cases items with
  | nil =>
    have helements : elements (some v) = .ok [] := by
      rw [elements, Option.bind_some, pairs?_of_list hitems]
      rfl
    rw [listing, renderNode, hv, ok_bind, helements]
    rfl
  | cons item items =>
    rw [listing, renderNode_loop_of_list hv hitems (List.cons_ne_nil item items),
      ← join_listed separator item items hlength]
    refine concat_of_parts fun pair hpair => renderElement_listing hne (hbindable pair.2 ?_)
    exact indexed_map_snd 0 (item :: items) ▸ List.mem_map_of_mem hpair

end DynamicTemplate

namespace Template

/-! ## The list of an `IN` -/

/-- A query for what is in a list and has a type. -/
def inListSource : String :=
  "SELECT a FROM t WHERE id IN ({{- range $i, $e := .Ids -}}{{if $i}}, {{end}}{{$e}}{{- end -}}) AND type = {{.Type}}"

/-- The tree of the query: between texts, a loop that lists the elements, and an action. -/
theorem parse_inListSource : Node.parse inListSource =
    .ok [.text "SELECT a FROM t WHERE id IN (", DynamicTemplate.listing "$i" "$e" ", " (.field ["Ids"]),
      .text ") AND type = ", .action ⟨[], false, [[.field ["Type"]]]⟩] := by
  decide +kernel

/-- The query for a list has as many placeholders between its parentheses as the list has elements, separated by commas,
and one for the type, and its arguments are the elements in order and the type. The value is a record or a map with the
list and the type in it, each of which may be optional. The indices of the elements fit into 64 bits, as those of every
list in memory do. -/
theorem in_list_rendered (options : Options) :
    ∃ t, build inListSource options = .ok t ∧ t.isStatic = false ∧
      ∀ (options' : Options) (v ids type : Value) (items : List Value), v.get? "Ids" = some ids →
        ids.peel = .list items → v.get? "Type" = some type → items.length ≤ 2 ^ 64 →
        (∀ item ∈ items, ∀ message, item.peel ≠ .unbindable message) → (∀ message, type.peel ≠ .unbindable message) →
        t.compiled.render options' v =
          .ok ⟨"SELECT a FROM t WHERE id IN (" ++ ", ".intercalate (List.replicate items.length "?") ++
            ") AND type = ?", items.map Value.peel ++ [type.peel]⟩ := by
  have hbuild : build inListSource options = .ok ⟨.dynamic [.text "SELECT a FROM t WHERE id IN (",
      DynamicTemplate.listing "$i" "$e" ", " (.field ["Ids"]), .text ") AND type = ",
      .action ⟨[], false, [[.field ["Type"]]]⟩], options⟩ := by
    rw [build, parse_inListSource]
    rfl
  refine ⟨_, hbuild, rfl, ?_⟩
  intro options' v ids type items hids hitems htype hlength hbindable hbindableType
  have hidsValue : DynamicTemplate.blockValue (.initial v) ⟨["$i", "$e"], false, [[.field ["Ids"]]]⟩ =
      .ok (some ids) := by
    show Except.ok ((v.get? "Ids").bind some) = _
    rw [hids]
    rfl
  have htypeEval : (Env.initial v).eval (.field ["Type"]) = .ok (some type) := by
    show Except.ok ((v.get? "Type").bind some) = _
    rw [htype]
    rfl
  have hlist : DynamicTemplate.renderNode options'.missingValue (.initial v)
      (DynamicTemplate.listing "$i" "$e" ", " (.field ["Ids"])) =
        .ok ⟨", ".intercalate (List.replicate items.length "?"), items.map Value.peel⟩ :=
    DynamicTemplate.renderNode_listing (by decide) hidsValue hitems hlength hbindable
  have htypeAction : DynamicTemplate.renderNode options'.missingValue (.initial v)
      (.action ⟨[], false, [[.field ["Type"]]]⟩) = .ok (.ofArgument type.peel) :=
    DynamicTemplate.renderNode_argument rfl rfl htypeEval hbindableType
  rw [Compiled.render, DynamicTemplate.render, DynamicTemplate.renderNodes, DynamicTemplate.renderNode, ok_bind,
    DynamicTemplate.renderNodes, hlist, ok_bind, DynamicTemplate.renderNodes, DynamicTemplate.renderNode, ok_bind,
    DynamicTemplate.renderNodes, htypeAction, ok_bind, String.append_assoc]
  rfl

/-- A list of an optional value and null, and an empty list. -/
theorem in_list_rendered_for_two_and_none :
    ∃ t, build inListSource .default = .ok t ∧
      t.compiled.render .default
          (.record [("Ids", .list [.optional (.string "a"), .null]), ("Type", .optional (.string "foobar"))]) =
        .ok ⟨"SELECT a FROM t WHERE id IN (?, ?) AND type = ?", [.string "a", .null, .string "foobar"]⟩ ∧
      t.compiled.render .default (.map [(.string "Type", .string "foobar"), (.string "Ids", .list [])]) =
        .ok ⟨"SELECT a FROM t WHERE id IN () AND type = ?", [.string "foobar"]⟩ := by
  obtain ⟨t, ht, -, hrender⟩ := in_list_rendered .default
  refine ⟨t, ht, ?_, ?_⟩
  · rw [hrender .default
      (.record [("Ids", .list [.optional (.string "a"), .null]), ("Type", .optional (.string "foobar"))])
      (.list [.optional (.string "a"), .null]) (.optional (.string "foobar")) [.optional (.string "a"), .null]
      rfl rfl rfl (by decide) (by simp [Value.peel]) (by simp [Value.peel])]
    rfl
  · rw [hrender .default (.map [(.string "Type", .string "foobar"), (.string "Ids", .list [])]) (.list [])
      (.string "foobar") [] rfl rfl rfl (by decide) (by simp) (by simp [Value.peel])]
    rfl

end Template

end QueryTemplate
