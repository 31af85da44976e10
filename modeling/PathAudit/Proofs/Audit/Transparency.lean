import PathAudit.Proofs.Audit.RepeatedCalls

/-! What it would come to if a call that is answered from the conversation were carried out after
all. A call that only looks, or cannot be read, would come to what was recorded for it. A change
that was refused is refused again and findings that were written are written again without effect,
as long as what that depends on is as the first call left it. To attach or fold once more what was
attached or folded never comes to the same. -/
namespace PathAudit

def Action.reshapes : Action → Bool
  | .addFunction _ _ | .compress _ _ _ _ => true
  | _ => false

/-- Whether the action folds a chain, which depends on the edges and not on the nodes alone. -/
def Action.folds : Action → Bool
  | .compress _ _ _ _ => true
  | _ => false

/-- The same calls and, function by function, the same findings. -/
structure Session.Unchanged (before after : Session) : Prop where
  graph : after.graph = before.graph
  findings : ∀ f, after.annotations.get? f = before.annotations.get? f

theorem Session.Unchanged.refl (s : Session) : s.Unchanged s := ⟨rfl, fun _ => rfl⟩

theorem Session.Unchanged.trans {s t u : Session} (first : s.Unchanged t) (second : t.Unchanged u) :
    s.Unchanged u :=
  ⟨second.graph.trans first.graph, fun f => (second.findings f).trans (first.findings f)⟩

theorem Session.Unchanged.finding {s t : Session} (same : s.Unchanged t) (f : FunctionId)
    (kind : FindingKind) : t.annotations.finding f kind = s.annotations.finding f kind := by
  rw [Annotations.finding, same.findings, Annotations.finding]

namespace Service
section Again
variable {r : Resolver} {s t after later : Session} {action : Action}
  {outcome second : ActionOutcome}

theorem Change.of_same_nodes {graph : CallGraph} {annotations : Annotations}
    (change : Change r s action graph annotations)
    (nodes : ∀ f, t.graph.contains f = s.graph.contains f)
    (edges : action.folds = true → t.graph = s.graph) :
    ∃ graph annotations, Change r t action graph annotations := by
  cases change with
  | extend suffix callers plan findings prepared =>
    have again := ExtendPlan.prepared_of_same_nodes nodes prepared
    exact ⟨_, _, .extend suffix callers plan findings again⟩
  | compress start intermediates stop label plan prepared =>
    rw [← edges rfl] at prepared
    exact ⟨_, _, .compress start intermediates stop label plan prepared⟩
  | amend function updates plan prepared =>
    rw [← AmendPlan.prepare_congr (nodes function)] at prepared
    exact ⟨_, _, .amend function updates plan prepared⟩

private theorem mem_pairs_folded_ends (g : CallGraph) (start : FunctionId)
    (intermediates : List FunctionId) (stop : FunctionId) (label : String) :
    (start, stop) ∈ (CompressPlan.folded g start intermediates stop label).pairs := by
  simp [CompressPlan.folded, CallGraph.pairs, CallEdge.pair]

theorem Change.graph_ne {graph : CallGraph} {annotations : Annotations}
    (change : Change r s action graph annotations) (reshapes : action.reshapes = true) :
    graph ≠ s.graph := by
  cases change with
  | extend suffix callers plan findings prepared =>
    intro same
    have none : plan.newEdges = [] := by simpa using congrArg CallGraph.edges same
    exact ExtendPlan.newEdges_ne_nil prepared none
  | compress start intermediates stop label plan prepared =>
    intro same
    have chain := ((CompressPlan.prepare_eq_ok_iff ..).mp prepared).1
    exact chain.fresh (same ▸ mem_pairs_folded_ends s.graph start intermediates stop label)
  | amend function updates plan prepared => contradiction

theorem Change.not_again {graph : CallGraph} {annotations : Annotations}
    (change : Change r s action graph annotations) (reshapes : action.reshapes = true)
    (same : t.graph = graph) (next : CallGraph) (findings : Annotations) :
    ¬Change r t action next findings := by
  intro again
  cases change with
  | extend suffix callers plan found prepared =>
    cases again with
    | extend _ _ plan' found' prepared' =>
      rw [same] at prepared'
      exact ExtendPlan.not_prepared_again prepared prepared'
  | compress start intermediates stop label plan prepared =>
    cases again with
    | compress _ _ _ _ plan' prepared' =>
      rw [same] at prepared'
      have chain := ((CompressPlan.prepare_eq_ok_iff ..).mp prepared').1
      exact chain.fresh (mem_pairs_folded_ends s.graph start intermediates stop label)
  | amend function updates plan prepared => contradiction

theorem Ending.failed_again (first : Ending r s action outcome after)
    (error : outcome.isError = true) (mutation : action.isMutation = true)
    (nodes : ∀ f, t.graph.contains f = after.graph.contains f)
    (edges : action.folds = true → t.graph = after.graph)
    (again : Ending r t action second later) :
    second.isError = true ∧ t.Unchanged later := by
  cases first with
  | refused text barred =>
    cases again with
    | refused text' barred' => exact ⟨rfl, .refl t⟩
    | answered text' looks => simp [mutation] at looks
    | changed text' graph annotations artifact change =>
      obtain ⟨_, _, possible⟩ :=
        change.of_same_nodes (fun f => (nodes f).symm) (fun folds => (edges folds).symm)
      exact absurd possible (barred _ _)
  | answered text looks => contradiction
  | changed text graph annotations artifact change => contradiction

theorem Ending.amended_again {function : FunctionId} {updates : Dict String}
    (first : Ending r s (.update function updates) outcome after)
    (fine : outcome.isError = false) (node : t.graph.contains function = true)
    (findings : ∀ kind : FindingKind, kind.name ∈ updates.keys →
      t.annotations.finding function kind = after.annotations.finding function kind)
    (again : Ending r t (.update function updates) second later) :
    second.isError = false ∧ t.Unchanged later := by
  cases first with
  | refused text barred => contradiction
  | answered text looks => contradiction
  | changed text graph annotations artifact change =>
    cases change with
    | amend _ _ plan prepared =>
      have same : t.graph.contains function = s.graph.contains function :=
        node.trans (AmendPlan.contains_of_prepared prepared).symm
      have ready := prepared
      rw [← AmendPlan.prepare_congr same] at ready
      cases again with
      | refused text' barred' => exact absurd (.amend function updates plan ready) (barred' _ _)
      | answered text' looks => contradiction
      | changed text' graph' annotations' artifact' change' =>
        cases change' with
        | amend _ _ plan' prepared' =>
          obtain rfl : plan = plan' := Except.ok.inj (ready.symm.trans prepared')
          refine ⟨rfl, rfl, Annotations.get?_merge_of_held ?_⟩
          intro kind text written
          rw [findings kind (AmendPlan.asked_of_prepared prepared written),
            Annotations.finding_merge, written]
          rfl

theorem Ending.reshaped_again (first : Ending r s action outcome after)
    (fine : outcome.isError = false) (reshapes : action.reshapes = true)
    (again : Ending r t action second later) :
    (second.isError = true ∨ later.graph ≠ t.graph) ∧
      (t.graph = after.graph → second.isError = true ∧ t.Unchanged later) := by
  have mutation : action.isMutation = true := by cases action <;> first | rfl | contradiction
  cases again with
  | refused text' barred' => exact ⟨Or.inl rfl, fun _ => ⟨rfl, .refl t⟩⟩
  | answered text' looks => simp [mutation] at looks
  | changed text' graph' annotations' artifact' change' =>
    refine ⟨Or.inr (change'.graph_ne reshapes), fun kept => ?_⟩
    cases first with
    | refused text barred => contradiction
    | answered text looks => simp [mutation] at looks
    | changed text graph annotations artifact change =>
      exact absurd change' (change.not_again reshapes kept _ _)

end Again

variable {σ : Type}

theorem dispatch_looks (c : Collaborators σ) (config : Config) {action : Action}
    (looks : action.isMutation = false) (s t : Session) (w v : World σ) :
    (dispatch c config t action v).1 = (dispatch c config s action w).1 ∧
      (dispatch c config t action v).2.1 = t := by
  cases action with
  | inspect function => exact ⟨rfl, rfl⟩
  | listCallees function => exact ⟨rfl, rfl⟩
  | _ => contradiction

end Service

namespace Audit
variable {σ : Type}

section Execute
variable (c : Collaborators σ) (config : AuditConfig) {call : ToolCall} (s : Session) (w : World σ)

theorem execute_unread (unread : ∀ action, Action.ofCall call ≠ .ok action) :
    (execute c config call s w).1.2 = true ∧ s.Unchanged (execute c config call s w).2.1 := by
  unfold execute
  dsimp only
  split
  next reason _ => exact ⟨rfl, rfl, fun _ => rfl⟩
  next action decoded => exact absurd decoded (unread action)

theorem execute_decoded {action : Action} (decoded : Action.ofCall call = .ok action) :
    let done := Service.dispatch c config.service s action w
    (execute c config call s w).1 = (Action.describe call ++
        (if done.1.isError then " failed: " else " succeeded: ") ++ done.1.content,
      done.1.isError) ∧
    done.2.1.Unchanged (execute c config call s w).2.1 := by
  unfold execute
  simp only [decoded]
  generalize Service.dispatch c config.service s action w = done
  obtain ⟨outcome, after, later⟩ := done
  cases outcome.isError with
  | true => exact ⟨rfl, rfl, fun _ => rfl⟩
  | false => exact ⟨rfl, rfl, fun _ => rfl⟩

theorem execute_ending {action : Action} (decoded : Action.ofCall call = .ok action) :
    ∃ outcome after, Service.Ending c.resolver s action outcome after ∧
      (execute c config call s w).1.2 = outcome.isError ∧
      after.Unchanged (execute c config call s w).2.1 := by
  obtain ⟨told, same⟩ := execute_decoded c config s w decoded
  exact ⟨_, _, Service.dispatch_ending c config.service s action w, by rw [told], same⟩

end Execute

theorem CarriedOut.leaves {c : Collaborators σ} {config : AuditConfig}
    {before after : Audit × World σ} {call : ToolCall} {text : String} {isError : Bool}
    (done : CarriedOut c config before after call text isError) :
    (execute c config call before.1.session { before.2 with notices := [] }).2.1.Unchanged
      after.1.session := by
  rw [done.session]
  exact ⟨rfl, fun _ => rfl⟩

/-- What carrying out a call again comes to in the session `now`. The first time it was answered
with `prior` and left the session `left`. -/
structure Redone (left now : Session) (call : ToolCall) (prior : String) (isError : Bool)
    (redone : (String × Bool) × Session × World σ) : Prop where
  unread : (∀ action, Action.ofCall call ≠ .ok action) →
    isError = true ∧ redone.1.2 = true ∧ now.Unchanged redone.2.1
  looking : ∀ action, Action.ofCall call = .ok action → action.isMutation = false →
    redone.1 = (prior, isError) ∧ now.Unchanged redone.2.1
  failed : ∀ action, Action.ofCall call = .ok action → action.isMutation = true →
    isError = true → (∀ f, now.graph.contains f = left.graph.contains f) →
    (action.folds = true → now.graph = left.graph) →
    redone.1.2 = true ∧ now.Unchanged redone.2.1
  amended : ∀ function updates, Action.ofCall call = .ok (.update function updates) →
    isError = false → now.graph.contains function = true →
    (∀ kind : FindingKind, kind.name ∈ updates.keys →
      now.annotations.finding function kind = left.annotations.finding function kind) →
    redone.1.2 = false ∧ now.Unchanged redone.2.1
  reshaped : ∀ action, Action.ofCall call = .ok action → action.reshapes = true →
    isError = false →
    (redone.1.2 = true ∨ redone.2.1.graph ≠ now.graph) ∧
      (now.graph = left.graph → redone.1.2 = true ∧ now.Unchanged redone.2.1)

private theorem ofCall_eq_ok_iff_of_repeats {call first : ToolCall} (alike : call.Repeats first)
    (action : Action) : Action.ofCall call = .ok action ↔ Action.ofCall first = .ok action := by
  have same := Action.toOption_ofCall_of_repeats alike
  cases now : Action.ofCall call <;> cases before : Action.ofCall first <;>
    simp_all [Except.toOption]

theorem execute_redone (c : Collaborators σ) (config : AuditConfig) {call first : ToolCall}
    (alike : call.Repeats first) {s left : Session} {w : World σ} {prior : String} {isError : Bool}
    (told : (execute c config first s w).1 = (prior, isError))
    (done : (execute c config first s w).2.1.Unchanged left) (now : Session) (v : World σ) :
    Redone left now call prior isError (execute c config call now v) := by
  have ofFirst := ofCall_eq_ok_iff_of_repeats alike
  have status : (execute c config first s w).1.2 = isError := by rw [told]
  -- How the call ended the first time and how it ends now.
  have endings {action : Action} (decoded : Action.ofCall call = .ok action) :
      ∃ outcome after second later, Service.Ending c.resolver s action outcome after ∧
        outcome.isError = isError ∧ after.Unchanged left ∧
        Service.Ending c.resolver now action second later ∧
        (execute c config call now v).1.2 = second.isError ∧
        later.Unchanged (execute c config call now v).2.1 := by
    obtain ⟨outcome, after, ending, failed, same⟩ :=
      execute_ending c config s w ((ofFirst action).mp decoded)
    obtain ⟨second, later, again⟩ := execute_ending c config now v decoded
    exact ⟨outcome, after, second, later, ending, failed.symm.trans status, same.trans done, again⟩
  constructor
  · intro unread
    have firstUnread : ∀ action, Action.ofCall first ≠ .ok action :=
      fun action decoded => unread action ((ofFirst action).mpr decoded)
    rw [← status]
    exact ⟨(execute_unread c config s w firstUnread).1, execute_unread c config now v unread⟩
  · intro action decoded looks
    obtain ⟨shown, same⟩ := execute_decoded c config now v decoded
    have firstShown := (execute_decoded c config s w ((ofFirst action).mp decoded)).1
    obtain ⟨outcome, session⟩ := Service.dispatch_looks c config.service looks s now w v
    rw [outcome, Action.describe_eq_of_repeats alike, ← firstShown, told] at shown
    rw [session] at same
    exact ⟨shown, same⟩
  · intro action decoded mutation error nodes edges
    obtain ⟨_, _, _, _, ending, ended, same, again, shown, rest⟩ := endings decoded
    rw [same.graph] at nodes edges
    obtain ⟨refused, unchanged⟩ :=
      ending.failed_again (ended.trans error) mutation nodes edges again
    exact ⟨shown.trans refused, unchanged.trans rest⟩
  · intro function updates decoded fine node findings
    obtain ⟨_, _, _, _, ending, ended, same, again, shown, rest⟩ := endings decoded
    simp only [same.finding] at findings
    obtain ⟨written, unchanged⟩ :=
      ending.amended_again (ended.trans fine) node findings again
    exact ⟨shown.trans written, unchanged.trans rest⟩
  · intro action decoded reshapes fine
    obtain ⟨_, _, _, _, ending, ended, same, again, shown, rest⟩ := endings decoded
    obtain ⟨differs, refused⟩ := ending.reshaped_again (ended.trans fine) reshapes again
    rw [shown, rest.graph]
    refine ⟨differs, fun kept => ?_⟩
    obtain ⟨error, unchanged⟩ := refused (kept.trans same.graph)
    exact ⟨error, unchanged.trans rest⟩

/-- As long as no name has a blank in it, a call that is answered from the conversation repeats one
that was carried out before. Were it carried out now, a call that cannot be read or only looks would
come to the same and change nothing. So would a change that was refused, while the nodes are the
same and, for a fold, the edges, and findings that were written, while their function is a node and
they are as written. To attach or fold once more what was attached or folded never comes to the
same. -/
theorem recalled_redone (c : Collaborators σ) (config : AuditConfig) (s : Session) (w : World σ)
    (plain : ∀ n call, Calls (stage c config (start config s) w n).1 call → call.NamedPlainly) :
    let along := stage c config (start config s) w
    ∀ n call prior, Calls (along n).1 call → Recalled (along n) (along (n + 1)) call prior →
      (∃ r, .toolResult r ∈ s.history ∧ r.text = prior ∧ Reports (Action.describe call) prior) ∨
        ∃ m < n, ∃ first isError, Original c config (start config s) w call m first prior isError ∧
          ∀ v, Redone (along (m + 1)).1.session (along n).1.session call prior isError
            (execute c config call (along n).1.session v) := by
  intro along n call prior called recalled
  rcases original_of_recalled c config _ w plain called recalled with
    initial | ⟨m, earlier, first, isError, original⟩
  · exact Or.inl initial
  · refine Or.inr ⟨m, earlier, first, isError, original, fun v => ?_⟩
    exact execute_redone c config original.alike original.done.result original.done.leaves _ v

section Runs

def bodyOfA : CodeBase := ({} : CodeBase).addFunction "a" "def a(): b()"

def inspecting (id : String) : ToolCall :=
  ⟨id, "inspect_function", .object [("function", .string "a")]⟩

private theorem ofCall_inspecting (id : String) :
    Action.ofCall (inspecting id) = .ok (.inspect "a") := rfl

private theorem namedPlainly_of_asking (code : CodeBase) (calls : List ToolCall)
    (wants : calls ≠ []) (plain : ∀ call ∈ calls, call.NamedPlainly) (n : Nat) (call : ToolCall)
    (called : Calls (stage (asking code calls) single (start single Service.threeCalls)
      { outside := () } n).1 call) : call.NamedPlainly :=
  plain call (mem_of_asking code calls _ _ wants called)

theorem recalled_redone_inspecting :
    let calls := [inspecting "t1", inspecting "t2"]
    let along := stage (asking bodyOfA calls) single (start single Service.threeCalls)
      { outside := () }
    (∀ n call, Calls (along n).1 call → call.NamedPlainly) ∧
      Calls (along 3).1 (inspecting "t2") ∧
      ∃ prior isError, Recalled (along 3) (along 4) (inspecting "t2") prior ∧
        ∀ v,
          let redone :=
            execute (asking bodyOfA calls) single (inspecting "t2") (along 3).1.session v
          redone.1 = (prior, isError) ∧ (along 3).1.session.Unchanged redone.2.1 := by
  intro calls along
  have plain := namedPlainly_of_asking bodyOfA calls (by simp [calls]) (by decide)
  have made (n : Nat) (early : n < 4) :=
    calls_asking_iff bodyOfA calls Service.threeCalls { outside := () } (by simp [calls]) early
  have firstCalled : Calls (along 2).1 (inspecting "t1") :=
    (made 2 (by decide) _).mpr ⟨by decide, rfl⟩
  have called : Calls (along 3).1 (inspecting "t2") := (made 3 (by decide) _).mpr ⟨by decide, rfl⟩
  obtain ⟨prior, recalled⟩ :=
    recalled_of_earlier _ _ _ _ (Nat.lt_succ_self 2) firstCalled called ⟨rfl, rfl⟩
  rcases recalled_redone _ single Service.threeCalls _ plain 3 _ prior called recalled with
    ⟨r, member, -⟩ | ⟨m, -, first, isError, -, redone⟩
  · exact nomatch member
  · refine ⟨plain, called, prior, isError, recalled, fun v => ?_⟩
    exact (redone v).looking _ (ofCall_inspecting "t2") rfl

def writing (id text : String) : ToolCall :=
  ⟨id, "update_function_node",
    .object [("function", .string "b"), ("updates", .object [("summary", .string text)])]⟩

private theorem execute_writing (c : Collaborators σ) (config : AuditConfig) (id text : String)
    {s : Session} (node : s.graph.contains "b" = true) (w : World σ) :
    (execute c config (writing id text) s w).2.1.graph = s.graph ∧
      (execute c config (writing id text) s w).2.1.annotations.finding "b" .summary =
        some text := by
  have decoded : Action.ofCall (writing id text) = .ok (.update "b" ⟨[("summary", text)]⟩) := rfl
  have prepared : AmendPlan.prepare s.graph "b" ⟨[("summary", text)]⟩ =
      .ok ⟨"b", .ofList [(.summary, text)]⟩ := by
    simp only [AmendPlan.prepare, node]
    rfl
  obtain ⟨outcome, after, ending, -, same⟩ := execute_ending c config s w decoded
  cases ending with
  | refused text barred => exact absurd (.amend _ _ _ prepared) (barred _ _)
  | answered text looks => contradiction
  | changed text graph annotations artifact change =>
    cases change with
    | amend _ _ plan planned =>
      cases Except.ok.inj (prepared.symm.trans planned)
      refine ⟨same.graph, ?_⟩
      rw [same.finding]
      exact Annotations.finding_merge s.annotations "b" _ .summary

private theorem stage_writing (c : Collaborators σ) (config : AuditConfig) (a : Audit) (w : World σ)
    (plain : ∀ n call, Calls (stage c config a w n).1 call → call.NamedPlainly)
    (fresh : a.session.history = []) {n next : Nat} (succ : next = n + 1) {id text : String}
    (called : Calls (stage c config a w n).1 (writing id text))
    (new : ∀ m < n, ∀ other, Calls (stage c config a w m).1 other →
      ¬(writing id text).Repeats other)
    (node : (stage c config a w n).1.session.graph.contains "b" = true) :
    (stage c config a w next).1.session.graph.contains "b" = true ∧
      (stage c config a w next).1.session.annotations.finding "b" .summary = some text := by
  subst succ
  obtain ⟨_, _, done⟩ := carriedOut_of_new c config a w plain fresh called new
  obtain ⟨graph, written⟩ := execute_writing c config id text node
    { (stage c config a w n).2 with notices := [] }
  refine ⟨?_, ?_⟩
  · rw [done.leaves.graph, graph, node]
  · rw [done.leaves.finding, written]

/-- A call with the name of another, its arguments and the end of an answer to it. -/
def posing : ToolCall :=
  ⟨"t1", "inspect_function with arguments \x7b\"function\":\"a\"\x7d failed: x", .null⟩

private theorem posing_reports (id reason : String) :
    Reports (Action.describe (inspecting id))
      (Action.describe posing ++ " failed: " ++ reason) := by
  have posed : Action.describe posing =
      Action.describe (inspecting id) ++ (" failed: " ++ "x with arguments null") := by
    rw [show Action.describe (inspecting id) = Action.describe (inspecting "") from rfl]
    decide +kernel
  refine ⟨(" failed: " ++ "x with arguments null" ++ (" failed: " ++ reason)).toList, ?_, Or.inr ?_⟩
  · rw [posed, String.append_assoc, String.append_assoc, String.toList_append]
  · rw [String.append_assoc, String.toList_append]
    exact List.prefix_append _ _

private theorem stage_posing (c : Collaborators σ) (config : AuditConfig) (a : Audit) (w : World σ)
    {n next last : Nat} (succ : next = n + 1) (after : last = next + 1) {id : String}
    (posed : Calls (stage c config a w n).1 posing)
    (called : Calls (stage c config a w next).1 (inspecting id))
    (silent : ∀ description,
      priorResult? (stage c config a w n).1.session.history description = none) :
    ∃ prior,
      CarriedOut c config (stage c config a w n) (stage c config a w next) posing prior true ∧
      Recalled (stage c config a w next) (stage c config a w last) (inspecting id) prior := by
  subst succ after
  rcases step_calls c config posed (stage c config a w n).2 with
    ⟨prior, recalled⟩ | ⟨text, isError, done⟩
  · exact absurd ((silent _).symm.trans recalled.known) (by simp)
  have unread : Action.ofCall posing = .error ("unknown action " ++ posing.name) := rfl
  have result := done.result
  simp only [execute, unread, Prod.mk.injEq] at result
  obtain ⟨rfl, rfl⟩ := result
  have grown : (stage c config a w (n + 1)).1.session.history = _ :=
    congrArg Session.history done.session
  have known : priorResult? (stage c config a w (n + 1)).1.session.history
      (Action.describe (inspecting id)) =
        some (Action.describe posing ++ " failed: " ++ ("unknown action " ++ posing.name)) := by
    rw [grown, priorResult?_append, silent, Option.none_or, priorResult?_result]
    exact ⟨posing_reports id _, rfl⟩
  rcases step_calls c config called (stage c config a w (n + 1)).2 with
    ⟨prior, recalled⟩ | ⟨_, _, again⟩
  · cases Option.some.inj (known.symm.trans recalled.known)
    exact ⟨_, done, recalled⟩
  · exact absurd (again.new.symm.trans known) (by simp)

def overwriting : List ToolCall :=
  [writing "t1" "first", writing "t2" "second", writing "t3" "first"]

/-- What is recalled need not hold any more: a summary that was overwritten since is reported as
written. And a name with blanks can pass for another call: the answer to a function that can be
looked at is that it cannot. -/
theorem recalled_not_transparent :
    let along := stage (asking {} overwriting) single (start single Service.threeCalls)
      { outside := () }
    let misled := stage (asking bodyOfA [posing, inspecting "t2"]) single
      (start single Service.threeCalls) { outside := () }
    (Calls (along 4).1 (writing "t3" "first") ∧
      (∃ prior, Recalled (along 4) (along 5) (writing "t3" "first") prior) ∧
      ∀ v, ¬(along 4).1.session.Unchanged
        (execute (asking {} overwriting) single (writing "t3" "first")
          (along 4).1.session v).2.1) ∧
    Calls (misled 3).1 (inspecting "t2") ∧ ∃ prior,
      CarriedOut (asking bodyOfA [posing, inspecting "t2"]) single (misled 2) (misled 3) posing
        prior true ∧
      Recalled (misled 3) (misled 4) (inspecting "t2") prior ∧
      ∀ v, (execute (asking bodyOfA [posing, inspecting "t2"]) single (inspecting "t2")
        (misled 3).1.session v).1.2 = false := by
  dsimp only
  refine ⟨?_, ?_⟩
  · have wants : overwriting ≠ [] := by simp [overwriting]
    have plain := namedPlainly_of_asking {} overwriting wants (by decide)
    have made (n : Nat) (early : n < 5) :=
      calls_asking_iff {} overwriting Service.threeCalls { outside := () } wants early
    have first := (made 2 (by decide) (writing "t1" "first")).mpr ⟨by decide, rfl⟩
    have second := (made 3 (by decide) (writing "t2" "second")).mpr ⟨by decide, rfl⟩
    have third := (made 4 (by decide) (writing "t3" "first")).mpr ⟨by decide, rfl⟩
    have node : (stage (asking {} overwriting) single (start single Service.threeCalls)
        { outside := () } 2).1.session.graph.contains "b" = true := by
      rw [stage_asking {} overwriting _ _ wants]
      decide
    have nodeAfter := (stage_writing _ _ _ _ plain rfl (rfl : 3 = 2 + 1) first
      (fun m early other earlier => absurd ((made m (by omega) other).mp earlier).1 (by omega))
      node).1
    obtain ⟨nodeLast, held⟩ := stage_writing _ _ _ _ plain rfl (rfl : 4 = 3 + 1) second
      (fun m early other earlier => by
        obtain ⟨late, listed⟩ := (made m (by omega) other).mp earlier
        obtain rfl : m = 2 := by omega
        cases Option.some.inj listed
        exact fun alike => absurd alike.2 (by decide +kernel)) nodeAfter
    refine ⟨third, recalled_of_earlier _ _ _ _ (by decide : 2 < 4) first third ⟨rfl, rfl⟩,
      fun v same => ?_⟩
    have rewritten := (execute_writing (asking {} overwriting) single "t3" "first" nodeLast v).2
    rw [same.finding, held] at rewritten
    exact absurd rewritten (by decide)
  · have wants : [posing, inspecting "t2"] ≠ [] := by simp
    have made (n : Nat) (early : n < 4) :=
      calls_asking_iff bodyOfA _ Service.threeCalls { outside := () } wants early
    have first := (made 2 (by decide) posing).mpr ⟨by decide, rfl⟩
    have second := (made 3 (by decide) (inspecting "t2")).mpr ⟨by decide, rfl⟩
    obtain ⟨prior, done, recalled⟩ := stage_posing _ _ _ _ (rfl : 3 = 2 + 1) (rfl : 4 = 3 + 1) first
      second (fun description => by rw [stage_asking bodyOfA _ _ _ wants]; rfl)
    refine ⟨second, prior, done, recalled, fun v => ?_⟩
    rw [(execute_decoded _ single _ v (ofCall_inspecting "t2")).1]
    rfl

end Runs

end Audit

end PathAudit
