import QueryTemplate.Proofs.Assembly.WellFormed
import QueryTemplate.Proofs.Render.Agreement
import QueryTemplate.Proofs.Render.Reached

/-!
# What is never refused

The errors for pipelines without commands, commands without operands and variables that the compilation does not know are
never met: a tree of a source has no such pipelines and commands, and where only the root is in scope no other variable
passes the checks (`Node.wellFormed_of_parse`).
-/

namespace QueryTemplate

/-- An error for something that no tree of a source has. -/
def Error.IsMalformed (e : Error) : Prop :=
  e = .unsupported .emptyPipeline ∨ e = .unsupported .emptyCommand ∨ e = .unsupported .freeVariable

namespace Pipeline

/-- A complete pipeline has a command, and its commands have operands, so other reasons remain to refuse it. -/
theorem not_isMalformed_of_singleOperand {p : Pipeline} {e : Error} (hp : IsComplete p) (h : singleOperand p = .error e) :
    ¬e.IsMalformed := by
  rw [singleOperand] at h
  split at h
  · rename_i hnone
    exact absurd hnone hp.commands
  · rename_i command hone
    have hcommand : command ≠ [] := hp.operands command (by simp [hone])
    rw [commandOperand.eq_def] at h
    split at h
    · exact absurd rfl hcommand
    all_goals cases h
    all_goals simp [Error.IsMalformed]
  · cases h
    simp [Error.IsMalformed]

theorem not_isMalformed_of_controlOperand {p : Pipeline} {e : Error} (hp : IsComplete p) (h : controlOperand p = .error e) :
    ¬e.IsMalformed := by
  rw [controlOperand] at h
  split at h
  · cases h
    simp [Error.IsMalformed]
  · exact not_isMalformed_of_singleOperand hp h

theorem not_isMalformed_of_outputOperand {p : Pipeline} {e : Error} (hp : IsComplete p) (h : outputOperand p = .error e) :
    ¬e.IsMalformed := by
  rw [outputOperand] at h
  split at h
  · cases h
    simp [Error.IsMalformed]
  · split at h
    · cases h
      simp [Error.IsMalformed]
    · exact not_isMalformed_of_singleOperand hp h

end Pipeline

/-- The walk knows of no unbound variables: what is not bound is missing. -/
theorem Env.not_isMalformed_of_eval {env : Env} {operand : Operand} {e : Error} (h : env.eval operand = .error e) :
    ¬e.IsMalformed := by
  cases operand <;> cases h <;> simp [Error.IsMalformed]

namespace DynamicTemplate

theorem not_isMalformed_of_blockValue {env : Env} {p : Pipeline} {e : Error} (hp : Pipeline.IsComplete p)
    (h : blockValue env p = .error e) : ¬e.IsMalformed := by
  rcases bind_eq_error.mp h with h | ⟨operand, -, h⟩
  · exact Pipeline.not_isMalformed_of_controlOperand hp h
  · exact Env.not_isMalformed_of_eval h

theorem not_isMalformed_of_renderAction {policy : MissingValue} {env : Env} {p : Pipeline} {e : Error}
    (hp : Pipeline.IsComplete p) (h : renderAction policy env p = .error e) : ¬e.IsMalformed := by
  rcases bind_eq_error.mp h with h | ⟨operand, -, h⟩
  · exact Pipeline.not_isMalformed_of_outputOperand hp h
  · split at h
    · cases h
    · rcases bind_eq_error.mp h with h | ⟨v, -, h⟩
      · exact Env.not_isMalformed_of_eval h
      · rcases bind_eq_error.mp h with h | ⟨_, -, h⟩
        · rcases StaticTemplate.isExtraction_of_extract h with hvariant | hvariant <;>
            rintro (rfl | rfl | rfl) <;> cases hvariant
        · cases h

theorem not_isMalformed_of_rounds {env : Env} {kind : BlockKind} {p : Pipeline} {e : Error} (hp : Pipeline.IsComplete p)
    (h : rounds env kind p = .error e) : ¬e.IsMalformed := by
  cases kind with
  | cond =>
    rcases bind_eq_error.mp h with h | ⟨v, -, h⟩
    · exact not_isMalformed_of_blockValue hp h
    · cases h
  | loop =>
    rcases bind_eq_error.mp h with h | ⟨pairs, -, h⟩
    · rcases bind_eq_error.mp h with h | ⟨v, -, h⟩
      · exact not_isMalformed_of_blockValue hp h
      · rw [elements] at h
        split at h
        · cases h
        · cases h
          simp [Error.IsMalformed]
    · cases h
  | focus =>
    rcases bind_eq_error.mp h with h | ⟨v, -, h⟩
    · exact not_isMalformed_of_blockValue hp h
    · cases v <;> cases h

/-- A visit to a well-formed node. -/
theorem not_isMalformed_of_renderVisit {policy : MissingValue} {visit : Visit} {inLoop : Bool} {e : Error}
    (hnode : visit.node.IsWellFormed inLoop) (h : renderVisit policy visit = .error e) : ¬e.IsMalformed := by
  obtain ⟨env, node⟩ := visit
  match node, hnode with
  | .text _, _ | .comment _, _ => cases h
  | .breakLoop, _ | .continueLoop, _ | .template _ _, _ =>
    cases h
    simp [Error.IsMalformed]
  | .action p, hp => exact not_isMalformed_of_renderAction (hp _ _ (.itself _ p)).1 h
  | .block kind p _ _, hp =>
    rw [renderVisit_block] at h
    rcases bind_eq_error.mp h with h | ⟨_, -, h⟩
    · exact not_isMalformed_of_rounds (hp _ _ (.itself _ p)).1 h
    · cases h

mutual

/-- What the walk of a node comes to stands in any list with the node. -/
theorem exists_occurs_of_visits {env : Env} {node : Node} {visit : Visit} (h : visit ∈ visits env node)
    {nodes : List Node} (hnode : node ∈ nodes) : ∃ inLoop, Occurs visit.node inLoop nodes := by
  match node with
  | .block kind pipeline body otherwise =>
    rcases mem_visits_block h with rfl | ⟨env', h⟩ | h
    · exact ⟨false, .here hnode⟩
    · obtain ⟨inLoop, hbody⟩ := exists_occurs_of_visitsAll h fun _ hn => hn
      exact ⟨_, .body hnode hbody⟩
    · obtain ⟨inLoop, hotherwise⟩ := exists_occurs_of_visitsAll h fun _ hn => hn
      exact ⟨_, .otherwise hnode hotherwise⟩
  | .text _ | .action _ | .comment _ | .breakLoop | .continueLoop | .template _ _ =>
    rw [visits_of_not_block rfl, List.mem_singleton] at h
    subst h
    exact ⟨false, .here hnode⟩

/-- What the walk of some nodes comes to stands in any list with the nodes. -/
theorem exists_occurs_of_visitsAll {env : Env} {some : List Node} {visit : Visit} (h : visit ∈ visitsAll env some)
    {nodes : List Node} (hnodes : ∀ node ∈ some, node ∈ nodes) : ∃ inLoop, Occurs visit.node inLoop nodes := by
  match some with
  | [] => cases h
  | node :: others =>
    rw [visitsAll, List.mem_append] at h
    rcases h with h | h
    · exact exists_occurs_of_visits h (hnodes node List.mem_cons_self)
    · exact exists_occurs_of_visitsAll h fun n hn => hnodes n (List.mem_cons_of_mem node hn)

end

/-- The walk of a list of which every node is well formed, in whatever environment. -/
theorem not_isMalformed_of_renderNodes {policy : MissingValue} {env : Env} {nodes : List Node} {e : Error}
    (hnodes : ∀ node inLoop, Occurs node inLoop nodes → node.IsWellFormed inLoop)
    (h : renderNodes policy env nodes = .error e) : ¬e.IsMalformed := by
  rw [renderNodes_eq_concat_visits, concat_eq_error_iff] at h
  obtain ⟨front, visit, rest, hvisits, -, h⟩ := h
  have hvisit : visit ∈ visitsAll env nodes := by simp [hvisits]
  obtain ⟨inLoop, hoccurs⟩ := exists_occurs_of_visitsAll hvisit fun _ hn => hn
  exact not_isMalformed_of_renderVisit (hnodes _ _ hoccurs) h

end DynamicTemplate

/-- The compilation of a tree that is accepted and of which every node is well formed. -/
theorem StaticTemplate.not_isMalformed_of_compile {nodes : List Node} {last : Scope} {e : Error}
    (hnodes : ∀ node inLoop, Occurs node inLoop nodes → node.IsWellFormed inLoop)
    (haccepted : Accepted false [rootName] nodes last) (h : compile nodes = .error e) : ¬e.IsMalformed := by
  obtain ⟨front, cause, rest, rfl, ⟨t, ht⟩, hcause⟩ := compile_eq_error h
  cases hblock : cause.isBlock with
  | true =>
    cases cause with
    | block kind pipeline body otherwise =>
      cases hcause
      simp [Error.IsMalformed]
    | _ => cases hblock
  | false =>
    -- the nodes before the cause compile, so they have not brought a variable into scope, and the walk refuses the cause too
    obtain ⟨mid, hmid, haccepted⟩ := haccepted.split
    rw [scope_of_compile hmid ht] at haccepted
    have hrefused := renderNode_of_refused haccepted hblock hcause .null []
    rw [← DynamicTemplate.renderVisit_of_not_block hblock] at hrefused
    exact DynamicTemplate.not_isMalformed_of_renderVisit (hnodes cause false (.here (by simp))) hrefused

/-- Trees of sources are well formed. At any depth, texts are not empty and hold no opening braces; pipelines, those in
parentheses included, have commands, the commands have operands, fields have paths, at most two variables are declared or
assigned in a loop and one elsewhere, functions are functions of the template language, and no command after the first begins
with a literal or the dot; `break` and `continue` stand in the body of a loop. So neither the compilation nor the walk is
ever refused for a pipeline without commands, a command without operands, or a variable that is not known. -/
theorem Node.wellFormed_of_parse {source : String} {nodes : List Node} (h : parse source = .ok nodes) :
    (∀ node inLoop, Occurs node inLoop nodes → node.IsWellFormed inLoop) ∧
      (∀ e, StaticTemplate.compile nodes = .error e → ¬e.IsMalformed) ∧
      ∀ options v e, DynamicTemplate.render nodes options v = .error e → ¬e.IsMalformed := by
  have hnodes : ∀ node inLoop, Occurs node inLoop nodes → node.IsWellFormed inLoop :=
    fun _ _ hnode => wellFormed_of_occurs h hnode
  obtain ⟨last, haccepted⟩ := accepted_of_parse h
  exact ⟨hnodes, fun e he => StaticTemplate.not_isMalformed_of_compile hnodes haccepted he,
    fun options v e he => DynamicTemplate.not_isMalformed_of_renderNodes hnodes he⟩

/-- In the body of a loop, a condition that ends it and a call on a pipeline in parentheses. -/
theorem Node.wellFormed_of_parse_loop :
    parse "{{range $i, $x := .A.B}}{{if $x}}{{break}}{{end}}{{len ($i = .C | not)}}{{end}}" =
        .ok [.block .loop ⟨["$i", "$x"], false, [[.field ["A", "B"]]]⟩
          [.block .cond ⟨[], false, [[.variable "$x" []]]⟩ [.breakLoop] [],
            .action ⟨[], false, [[.function "len", .group ⟨["$i"], true, [[.field ["C"]], [.function "not"]]⟩]]⟩] []] ∧
      Node.IsWellFormed true .breakLoop ∧
      Pipeline.IsWellFormed .action
        ⟨[], false, [[.function "len", .group ⟨["$i"], true, [[.field ["C"]], [.function "not"]]⟩]]⟩ := by
  have hparse : parse "{{range $i, $x := .A.B}}{{if $x}}{{break}}{{end}}{{len ($i = .C | not)}}{{end}}" =
      .ok [.block .loop ⟨["$i", "$x"], false, [[.field ["A", "B"]]]⟩
        [.block .cond ⟨[], false, [[.variable "$x" []]]⟩ [.breakLoop] [],
          .action ⟨[], false, [[.function "len", .group ⟨["$i"], true, [[.field ["C"]], [.function "not"]]⟩]]⟩] []] := by
    decide +kernel
  obtain ⟨hnodes, -, -⟩ := wellFormed_of_parse hparse
  have hloop := List.mem_singleton_self (Node.block .loop ⟨["$i", "$x"], false, [[.field ["A", "B"]]]⟩
    [.block .cond ⟨[], false, [[.variable "$x" []]]⟩ [.breakLoop] [],
      .action ⟨[], false, [[.function "len", .group ⟨["$i"], true, [[.field ["C"]], [.function "not"]]⟩]]⟩] [])
  have hbreak := Occurs.body hloop (.body List.mem_cons_self (.here (List.mem_singleton_self Node.breakLoop)))
  have hcall := Occurs.body hloop (.here (List.mem_cons_of_mem _ List.mem_cons_self))
  exact ⟨hparse, hnodes _ true hbreak, hnodes _ true hcall⟩

end QueryTemplate
