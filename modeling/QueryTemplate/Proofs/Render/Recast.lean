import QueryTemplate.Proofs.Parameter.Described
import QueryTemplate.Proofs.Render.Pruned
import QueryTemplate.Proofs.Render.Reached

/-!
# Rendering from a converted value

A converted value is a parameter too, and records have become maps when it is converted again. The query is the one that
the first parameter gives, with maps for the records among the arguments, unless a block is decided by a record itself
(`Template.render_ofValue`).
-/

namespace QueryTemplate

/-- The query with the map of its fields for every record in the arguments. -/
def Rendered.recast (r : Rendered) : Rendered :=
  ⟨r.query, r.arguments.map (Value.recast id)⟩

/-- Parts of a query are recast one after the other. -/
theorem Rendered.recast_append (r s : Rendered) : (r ++ s).recast = r.recast ++ s.recast := by
  show Rendered.mk _ (List.map _ (r.arguments ++ s.arguments)) = _
  rw [List.map_append]
  rfl

/-! ## Templates without blocks -/

namespace StaticTemplate

/-- A parameter of which the template curtails nothing is rendered like its whole value. -/
theorem render_of_not_lacks {t : StaticTemplate} {p : Parameter} {full : Value} (h : p.toValue = .ok full)
    (hlacks : ∀ path ∈ t.paths, ¬p.Lacks t.pathTree path) (options : Options) :
    t.convert p >>= t.render options = t.render options full := by
  obtain ⟨v, hv⟩ := Parameter.exists_convert t.pathTree p h
  have hlookup : ∀ path ∈ t.paths, v.lookup? path = full.lookup? path := by
    intro path hpath
    rcases Parameter.lookup?_convert_or hv h (covers_pathTree hpath) with ⟨hsame, -⟩ | ⟨hlack, -⟩
    · exact hsame
    · exact absurd hlack (hlacks path hpath)
  rw [convert, hv, ok_bind, render, render, arguments_congr hlookup]

/-- A compiled template looks its paths up and binds what it finds. -/
theorem render_recast (t : StaticTemplate) (options : Options) (v : Value) :
    t.render options (v.recast id) = (t.render options v).map Rendered.recast :=
  t.render_replaced (Value.isReplacement_recast id) options v

end StaticTemplate

/-! ## Environments -/

namespace Env

/-- The environment with maps for the records in its values. -/
def recast (env : Env) : Env :=
  env.map (Prod.map id (Value.recast id))

/-- A variable is found with its value recast. -/
theorem get?_recast (env : Env) (name : String) : env.recast.get? name = (env.get? name).map (Value.recast id) := by
  induction env with
  | nil => rfl
  | cons binding env ih =>
    obtain ⟨key, v⟩ := binding
    show (if key = name then _ else _) = Option.map _ (if key = name then _ else _)
    split
    · rfl
    · exact ih

/-- The variable of a condition is bound to its value recast. -/
theorem recast_bindCond (env : Env) (names : List String) (v : Option Value) :
    (env.bindCond names v).recast = env.recast.bindCond names (v.map (Value.recast id)) := by
  cases names <;> cases v <;> rfl

/-- The variables of a loop are bound to the key and the element recast. -/
theorem recast_bindElement (env : Env) (names : List String) (key element : Value) :
    (env.bindElement names key element).recast =
      env.recast.bindElement names (key.recast id) (element.recast id) := by
  match names with
  | [] | [_] | _ :: _ :: _ => rfl

/-- Literals have no records, and a path leads from the replacement to the replacement. -/
theorem eval_recast (env : Env) (operand : Operand) :
    env.recast.eval operand = (env.eval operand).map (Option.map (Value.recast id)) := by
  have hlookup : ∀ name path, (env.recast.get? name).bind (Value.lookup? path) =
      ((env.get? name).bind (Value.lookup? path)).map (Value.recast id) := by
    intro name path
    rw [get?_recast]
    cases env.get? name with
    | none => rfl
    | some v => exact Value.lookup?_recast id path v
  match operand with
  | .dot => exact congrArg Except.ok (get?_recast env dotName)
  | .field path => exact congrArg Except.ok (hlookup dotName path)
  | .variable name path => exact congrArg Except.ok (hlookup name path)
  | .bool _ | .number _ _ | .string _ | .nil | .function _ | .group _ => rfl

end Env

/-! ## The walk -/

/-- A record decides a block of this kind otherwise than the map of its fields: it is no collection, and it never holds. -/
def BlockKind.Separates : BlockKind → Value → Prop
  | .loop, v => ∃ fields, v.peel = .record fields
  | .cond, v | .focus, v => ∃ field fields, v = .record (field :: fields)

/-- What is visited is a block that is decided by a record, and otherwise than by a map. -/
def Visit.IsSeparated (visit : Visit) : Prop :=
  ∃ kind pipeline body otherwise v, visit.node = .block kind pipeline body otherwise ∧
    DynamicTemplate.blockValue visit.env pipeline = .ok (some v) ∧ kind.Separates v

namespace DynamicTemplate

/-- The value of a block is recast with the environment. -/
theorem blockValue_recast (env : Env) (pipeline : Pipeline) :
    blockValue env.recast pipeline = (blockValue env pipeline).map (Option.map (Value.recast id)) := by
  rw [blockValue, blockValue]
  cases Pipeline.controlOperand pipeline with
  | error e => rfl
  | ok operand => exact env.eval_recast operand

/-- An action binds its argument recast. -/
theorem renderAction_recast (policy : MissingValue) (env : Env) (pipeline : Pipeline) :
    renderAction policy env.recast pipeline = (renderAction policy env pipeline).map Rendered.recast := by
  rw [renderAction, renderAction]
  cases Pipeline.outputOperand pipeline with
  | error e => rfl
  | ok operand =>
    rw [ok_bind, ok_bind]
    cases operand.literalText? with
    | some text => rfl
    | none =>
      simp only [env.eval_recast]
      cases env.eval operand with
      | error e => rfl
      | ok v =>
        show (do return Rendered.ofArgument (← Value.extract policy operand.text (v.map (Value.recast id)))) =
          Except.map _ (do return Rendered.ofArgument (← Value.extract policy operand.text v))
        rw [Value.extract_recast]
        cases Value.extract policy operand.text v <;> rfl

/-- A condition holds alike, unless a record decides it. -/
theorem holds_recast {v : Option Value} (h : ∀ w, v = some w → ¬BlockKind.cond.Separates w) :
    holds (v.map (Value.recast id)) = holds v := by
  cases v with
  | none => rfl
  | some w => exact Value.isTruthy_recast fun field fields hw => h w rfl ⟨field, fields, hw⟩

/-- A loop has the same elements, unless it goes over a record. -/
theorem elements_recast {v : Option Value} (h : ∀ w, v = some w → ¬BlockKind.loop.Separates w) :
    elements (v.map (Value.recast id)) =
      (elements v).map (List.map (Prod.map (Value.recast id) (Value.recast id))) := by
  cases v with
  | none => rfl
  | some w =>
    have hpairs := Value.pairs?_recast fun fields hw => h w rfl ⟨fields, hw⟩
    simp only [elements, Option.map_some, Option.bind_some, hpairs]
    cases w.pairs? <;> rfl

/-- A block that is not decided by a record has as many rounds with maps for records. -/
theorem rounds_recast {env : Env} {kind : BlockKind} {pipeline : Pipeline}
    (h : ∀ v, blockValue env pipeline = .ok (some v) → ¬kind.Separates v) :
    rounds env.recast kind pipeline = (rounds env kind pipeline).map (List.map Env.recast) := by
  cases kind with
  | cond =>
    rw [rounds, rounds, blockValue_recast]
    cases hv : blockValue env pipeline with
    | error e => rfl
    | ok v =>
      have hholds : holds (v.map (Value.recast id)) = holds v := holds_recast fun w hw => h w (hw ▸ hv)
      simp only [Except.map, ok_bind, hholds, ← Env.recast_bindCond]
      cases holds v <;> rfl
  | loop =>
    rw [rounds, rounds, blockValue_recast]
    cases hv : blockValue env pipeline with
    | error e => rfl
    | ok v =>
      simp only [Except.map, ok_bind]
      rw [elements_recast fun w hw => h w (hw ▸ hv)]
      cases elements v with
      | error e => rfl
      | ok pairs =>
        simp only [Except.map, ok_bind, pure, Except.pure, List.map_map, Env.recast_bindElement, Function.comp_def,
          Prod.map_fst, Prod.map_snd]
  | focus =>
    rw [rounds, rounds, blockValue_recast]
    cases hv : blockValue env pipeline with
    | error e => rfl
    | ok v =>
      cases v with
      | none => rfl
      | some v =>
        have hholds : (v.recast id).isTruthy = v.isTruthy :=
          Value.isTruthy_recast fun field fields hw => h v hv ⟨field, fields, hw⟩
        simp only [Except.map, ok_bind, Option.map_some, hholds]
        cases v.isTruthy <;> rfl

/-- Recasting goes through parts that follow each other, and leaves errors. -/
theorem map_recast_append (x y : Except Error Rendered) :
    (do return (← x) ++ (← y) : Except Error Rendered).map Rendered.recast =
      do return (← x.map Rendered.recast) ++ (← y.map Rendered.recast) := by
  cases x with
  | error e => rfl
  | ok r =>
    cases y with
    | error e => rfl
    | ok s => exact congrArg Except.ok (Rendered.recast_append r s)

/-- Renderings in sequence that are the same with maps for records, as far as the sequence comes to them. -/
theorem concat_recast {α : Type} {f g : α → Except Error Rendered} {xs : List α}
    (h : ∀ before x after r, xs = before ++ x :: after → concat f before = .ok r → g x = (f x).map Rendered.recast) :
    concat g xs = (concat f xs).map Rendered.recast := by
  induction xs with
  | nil => rfl
  | cons x xs ih =>
    rw [concat, concat, map_recast_append, h [] x xs .empty rfl rfl]
    cases hx : f x with
    | error e => rfl
    | ok r =>
      have hrest : concat g xs = (concat f xs).map Rendered.recast := ih fun before y after s hxs hs =>
        h (x :: before) y after (r ++ s) (congrArg (x :: ·) hxs) (by rw [concat, hx, hs]; rfl)
      rw [hrest]

mutual

/-- A node is rendered to the same with maps for records, if the walk comes to no block that a record decides. -/
theorem renderNode_recast {policy : MissingValue} {env : Env} {node : Node} {rest : List Node}
    (h : ∀ alternatives visit, Reached policy env (node :: rest) alternatives visit → ¬visit.IsSeparated) :
    renderNode policy env.recast node = (renderNode policy env node).map Rendered.recast := by
  match node with
  | .block kind pipeline body otherwise =>
    have hseparates : ∀ v, blockValue env pipeline = .ok (some v) → ¬kind.Separates v := fun v hv hkind =>
      h [] _ .here ⟨kind, pipeline, body, otherwise, v, rfl, hv, hkind⟩
    have hrounds := rounds_recast hseparates
    rw [renderNode_block, renderNode_block, hrounds]
    cases henvs : rounds env kind pipeline with
    | error e => rfl
    | ok envs =>
      show (if (envs.map Env.recast).isEmpty then renderNodes policy env.recast otherwise
          else concat (fun env' => renderNodes policy env' body) (envs.map Env.recast)) =
        (if envs.isEmpty then renderNodes policy env otherwise
          else concat (fun env' => renderNodes policy env' body) envs).map Rendered.recast
      rw [List.isEmpty_map]
      cases hempty : envs.isEmpty with
      | true =>
        rw [List.isEmpty_iff.mp hempty] at henvs
        exact renderNodes_recast fun _ _ hvisit => h _ _ (.alternative henvs hvisit)
      | false =>
        simp only [Bool.false_eq_true, if_false, concat_map]
        refine concat_recast fun before env' after r hsplit hr => ?_
        exact renderNodes_recast fun _ _ hvisit => h _ _ (.body (hsplit ▸ henvs) hr hvisit)
  | .action pipeline =>
    rw [renderNode, renderNode]
    exact renderAction_recast policy env pipeline
  | .text _ | .comment _ | .breakLoop | .continueLoop | .template _ _ =>
    rw [renderNode, renderNode]
    rfl

/-- So is a list of nodes. -/
theorem renderNodes_recast {policy : MissingValue} {env : Env} {nodes : List Node}
    (h : ∀ alternatives visit, Reached policy env nodes alternatives visit → ¬visit.IsSeparated) :
    renderNodes policy env.recast nodes = (renderNodes policy env nodes).map Rendered.recast := by
  match nodes with
  | [] =>
    rw [renderNodes, renderNodes]
    rfl
  | node :: nodes =>
    rw [renderNodes, renderNodes, map_recast_append, renderNode_recast h]
    cases hnode : renderNode policy env node with
    | error e => rfl
    | ok r => rw [renderNodes_recast fun _ _ hvisit => h _ _ (.later hnode hvisit)]

end

/-- A value is rendered to the same with maps for records, if the walk comes to no block that a record decides. -/
theorem render_recast {nodes : List Node} {options : Options} {v : Value}
    (h : ∀ alternatives visit, Reached options.missingValue (.initial v) nodes alternatives visit →
      ¬visit.IsSeparated) :
    render nodes options (v.recast id) = (render nodes options v).map Rendered.recast :=
  renderNodes_recast h

end DynamicTemplate

/-! ## The parameter and its value -/

namespace Template

/-- The template is compiled and curtails the parameter. -/
def Curtails (t : Template) (p : Parameter) : Prop :=
  ∃ template, t.compiled = .static template ∧ template.Curtails p

/-- The template is walked, and the walk of the value comes to a block that a record decides. -/
def Separates (t : Template) (v : Value) : Prop :=
  ∃ nodes alternatives visit, t.compiled = .dynamic nodes ∧
    DynamicTemplate.Reached t.options.missingValue (.initial v) nodes alternatives visit ∧ visit.IsSeparated

/-- A template that loses nothing of a parameter renders it as its whole value. -/
theorem render_of_not_curtails {t : Template} {p : Parameter} {v : Value} (h : p.toValue = .ok v)
    (hcurtails : ¬t.Curtails p) : t.render p = t.compiled.render t.options v := by
  rw [render]
  cases ht : t.compiled with
  | static template =>
    refine StaticTemplate.render_of_not_lacks h (fun path hpath hlacks => hcurtails ⟨template, ht, ?_⟩) t.options
    exact (StaticTemplate.curtails_iff template p).mpr ⟨path, hpath, hlacks⟩
  | dynamic nodes =>
    show p.toValue >>= _ = _
    rw [h]
    rfl

/-- A template loses nothing of a parameter that lacks nothing. -/
theorem not_curtails_of_not_lacks {p : Parameter} (h : ∀ paths path, ¬p.Lacks paths path) (t : Template) :
    ¬t.Curtails p := by
  rintro ⟨template, -, hcurtails⟩
  obtain ⟨path, -, hlacks⟩ := (StaticTemplate.curtails_iff template _).mp hcurtails
  exact h _ path hlacks

/-- A template loses nothing of a value that describes itself. -/
theorem not_curtails_ofValue (t : Template) (v : Value) : ¬t.Curtails (.ofValue v) :=
  not_curtails_of_not_lacks (fun paths path => Parameter.not_lacks_ofValue paths v path) t

/-- A template renders a value with maps for records alike, if no record decides a block. -/
theorem render_recast {t : Template} {v : Value} (h : ¬t.Separates v) :
    t.compiled.render t.options (v.recast id) = (t.compiled.render t.options v).map Rendered.recast := by
  cases ht : t.compiled with
  | static template => exact StaticTemplate.render_recast template t.options v
  | dynamic nodes =>
    exact DynamicTemplate.render_recast fun alternatives visit hvisit hseparated =>
      h ⟨nodes, alternatives, visit, ht, hvisit, hseparated⟩

/-- Rendering from the value of a parameter, in which everything can be bound, is rendering the value with maps for its
records. Without records that is rendering from the parameter itself. With records it is the same query or error still, with
maps for the records among the arguments, if no block that the walk comes to is decided by a record otherwise than by a map.
The parameters of which a compiled template curtails the elements of variants are left out. -/
theorem render_ofValue {t : Template} {p : Parameter} {v : Value} (h : p.toValue = .ok v)
    (hbindable : v.unbindable? = none) :
    t.render (.ofValue v) = t.compiled.render t.options (v.recast id) ∧
      (¬t.Curtails p →
        (v.hasRecord = false → t.render (.ofValue v) = t.render p) ∧
          (¬t.Separates v → t.render (.ofValue v) = (t.render p).map Rendered.recast)) := by
  have hagain : t.render (.ofValue v) = t.compiled.render t.options (v.recast id) :=
    render_of_not_curtails (Parameter.toValue_ofValue_of_convert h hbindable) (t.not_curtails_ofValue v)
  refine ⟨hagain, fun hcurtails => ⟨fun hrecord => ?_, fun hseparates => ?_⟩⟩
  · rw [hagain, Value.recast_of_not_hasRecord hrecord, render_of_not_curtails h hcurtails]
  · rw [hagain, render_recast hseparates, render_of_not_curtails h hcurtails]

/-- A present optional record decides the condition, as a map too, and another record is bound. A parameter without records
has the same query in every respect. -/
theorem render_ofValue_condition :
    ∃ t, build "{{if .A}}{{.B}}{{end}}" .default = .ok t ∧
      t.render (.ofValue (.record [("A", .optional (.record [])), ("B", .record [("c", .bool true)])])) =
        (t.render (.record [("A", .optional (.record [])), ("B", .record [("c", .bool true)])])).map Rendered.recast ∧
      t.render (.ofValue (.map [(.string "A", .string "x")])) = t.render (.variantOf "A" (.char 'x')) := by
  have hbuild : build "{{if .A}}{{.B}}{{end}}" .default =
      .ok ⟨.dynamic [.block .cond ⟨[], false, [[.field ["A"]]]⟩ [.action ⟨[], false, [[.field ["B"]]]⟩] []], .default⟩ := by
    decide +kernel
  have hcurtails : ∀ p, ¬Curtails
      ⟨.dynamic [.block .cond ⟨[], false, [[.field ["A"]]]⟩ [.action ⟨[], false, [[.field ["B"]]]⟩] []], .default⟩ p := by
    rintro p ⟨template, htemplate, -⟩
    cases htemplate
  have hseparates : ¬Separates
      ⟨.dynamic [.block .cond ⟨[], false, [[.field ["A"]]]⟩ [.action ⟨[], false, [[.field ["B"]]]⟩] []], .default⟩
      (.record [("A", .optional (.record [])), ("B", .record [("c", .bool true)])]) := by
    rintro ⟨nodes, alternatives, visit, hnodes, hvisit, kind, pipeline, body, otherwise, w, hblock, hvalue, hkind⟩
    cases hnodes
    cases hvisit with
    | here =>
      cases hblock
      cases hvalue
      obtain ⟨_, _, hw⟩ := hkind
      cases hw
    | later _ hvisit | alternative _ hvisit => cases hvisit
    | body _ _ hvisit =>
      cases hvisit with
      | here => cases hblock
      | later _ hvisit => cases hvisit
  exact ⟨_, hbuild, ((render_ofValue rfl rfl).2 (hcurtails _)).2 hseparates, ((render_ofValue rfl rfl).2 (hcurtails _)).1 rfl⟩

/-- There are templates and values that do not come to the same when the value describes itself: a record never holds, and
the map of its fields does. -/
theorem not_render_ofValue :
    ¬∀ (source : String) (options : Options) (t : Template) (p : Parameter) (v : Value), build source options = .ok t →
      p.toValue = .ok v → v.unbindable? = none → t.render (.ofValue v) = t.render p := by
  intro h
  have hsame := h "{{if .}}x{{end}}" .default ⟨.dynamic [.block .cond ⟨[], false, [[.dot]]⟩ [.text "x"] []], .default⟩
    (.record [("a", .integer (.narrow (.i64 1)))]) (.record [("a", .ofNat 1)]) (by decide +kernel) rfl rfl
  cases hsame

end Template

end QueryTemplate
