import PathAudit.Proofs.Audit.Extracting
import PathAudit.Proofs.Audit.Transparency

/-! What is known about the functions of a path only grows while it is audited. A finding that was
made stays, also when its function is folded away, and the findings that were imported with the
record, its source and its sink, are never written. -/
namespace PathAudit

namespace Annotations

/-- Every finding is still there, and those that only an import sets are the same. -/
structure Grows (before after : Annotations) : Prop where
  kept : ∀ f kind, (before.finding f kind).isSome = true → (after.finding f kind).isSome = true
  seeds : ∀ f kind, kind.isAmendable = false → after.finding f kind = before.finding f kind

theorem Grows.refl (a : Annotations) : a.Grows a := ⟨fun _ _ found => found, fun _ _ _ => rfl⟩

theorem Grows.trans {a b c : Annotations} (first : a.Grows b) (second : b.Grows c) : a.Grows c := by
  constructor
  · intro f kind found
    exact second.kept f kind (first.kept f kind found)
  · intro f kind seeded
    exact (second.seeds f kind seeded).trans (first.seeds f kind seeded)

theorem finding_merge_of_ne (a : Annotations) {f other : FunctionId} (updates : Findings)
    (kind : FindingKind) (apart : other ≠ f) :
    (a.merge f updates).finding other kind = a.finding other kind := by
  rw [finding, get?_merge_of_ne a f other updates apart, finding]

theorem grows_merge (a : Annotations) (f : FunctionId) {updates : Findings}
    (admitted : updates.Admitted) : a.Grows (a.merge f updates) := by
  constructor
  · intro other kind found
    by_cases same : other = f
    · subst same
      rw [finding_merge]
      cases updates.get? kind with
      | none => exact found
      | some text => rfl
    · rwa [finding_merge_of_ne a updates kind same]
  · intro other kind seeded
    by_cases same : other = f
    · subst same
      rw [finding_merge, admitted kind seeded]
      rfl
    · exact finding_merge_of_ne a updates kind same

end Annotations

namespace Service
variable {σ : Type}

private theorem grows_committed (c : Collaborators σ) {s t : Session} (text : String) (w : World σ)
    (grows : s.annotations.Grows t.annotations) :
    s.annotations.Grows (committed c t text w).2.1.annotations := by
  obtain ⟨shown, artifact, -, session⟩ := committed_spec c t text w
  rw [session]
  exact grows

theorem extend_grows (c : Collaborators σ) (config : Config) (s : Session) (suffix : String)
    (callers : List FunctionId) (w : World σ) :
    s.annotations.Grows (extend c config s suffix callers w).2.1.annotations := by
  unfold extend
  dsimp only
  split
  next => exact .refl _
  next plan prepared =>
    rw [ExtendPlan.apply_prepared prepared]
    have admitted := Extraction.analyze_admitted c config.extraction plan.resolved plan.body []
      s.sink s.lastArtifact (w.tell (ExtendPlan.notices s.graph c.resolver suffix callers))
    apply grows_committed
    exact Annotations.grows_merge _ _ admitted

theorem compress_grows (c : Collaborators σ) (s : Session) (start : FunctionId)
    (intermediates : List FunctionId) (stop : FunctionId) (label : String) (w : World σ) :
    s.annotations.Grows (compress c s start intermediates stop label w).2.1.annotations := by
  unfold compress
  split
  next => exact .refl _
  next =>
    split
    next => exact .refl _
    next =>
      apply grows_committed
      exact .refl _

theorem amend_grows (c : Collaborators σ) (s : Session) (function : FunctionId)
    (updates : Dict String) (w : World σ) :
    s.annotations.Grows (amend c s function updates w).2.1.annotations := by
  unfold amend
  split
  next => exact .refl _
  next plan prepared =>
    apply grows_committed
    exact Annotations.grows_merge _ _ (AmendPlan.admitted_of_prepared prepared)

theorem dispatch_grows (c : Collaborators σ) (config : Config) (s : Session) (action : Action)
    (w : World σ) : s.annotations.Grows (dispatch c config s action w).2.1.annotations := by
  change s.annotations.Grows (perform c config s action { w with notices := [] }).2.1.annotations
  cases action with
  | addFunction suffix callers => exact extend_grows c config s suffix callers _
  | compress start intermediates stop label =>
    exact compress_grows c s start intermediates stop label _
  | update function updates => exact amend_grows c s function updates _
  | inspect function => exact .refl _
  | listCallees function => exact .refl _

end Service

namespace Audit
variable {σ : Type}

section Steps
variable (c : Collaborators σ) (config : AuditConfig)

theorem annotate_grows (s : Session) (node : FunctionId) (w : World σ) :
    s.annotations.Grows (annotate c config s node w).1.annotations := by
  unfold annotate
  split
  next => exact .refl _
  next =>
    dsimp only
    split
    next => exact .refl _
    next body found =>
      have admitted := Extraction.analyze_admitted c config.service.extraction node body
        (s.graph.callees node) s.sink none (w.tell (c.resolver.notices node))
      exact Annotations.grows_merge _ _ admitted

theorem execute_grows (call : ToolCall) (s : Session) (w : World σ) :
    s.annotations.Grows (execute c config call s w).2.1.annotations := by
  unfold execute
  dsimp only
  split
  next => exact .refl _
  next action decoded =>
    have grows := Service.dispatch_grows c config.service s action w
    split
    · exact grows
    · exact grows

theorem act_grows (call : ToolCall) (s : Session) (w : World σ) :
    s.annotations.Grows (act c config call s w).1.annotations := by
  unfold act respond
  cases priorResult? s.history (Action.describe call) with
  | some prior => exact .refl _
  | none => exact execute_grows c config call s w

def writes : Phase → Bool
  | .annotating (_ :: _) | .acting (_ :: _) => true
  | _ => false

theorem Moves.annotations_of_not_writes {r : Resolver} {config : AuditConfig} {a b : Audit}
    {made : List Exchange} (move : Moves r config a made b) (idle : writes a.phase = false) :
    b.session.annotations = a.session.annotations := by
  cases move with
  | annotate | act => contradiction
  | _ => rfl

theorem step_grows (a : Audit) (w : World σ) :
    a.session.annotations.Grows (step c config a w).1.session.annotations := by
  cases status : a.result? with
  | some result =>
    rw [step_finished c config status]
    exact .refl _
  | none =>
    cases idle : writes a.phase with
    | false =>
      obtain ⟨made, move, -⟩ := step_moves c config a w status
      rw [move.annotations_of_not_writes idle]
      exact .refl _
    | true =>
      obtain ⟨s, n, phase⟩ := a
      rw [step_fst]
      unfold writes at idle
      split at idle
      next node nodes phase =>
        cases phase
        exact annotate_grows c config s node _
      next call calls phase =>
        cases phase
        exact act_grows c config call s _
      next => contradiction

theorem stage_grows (a : Audit) (w : World σ) {m n : Nat} (before : m ≤ n) :
    (stage c config a w m).1.session.annotations.Grows
      (stage c config a w n).1.session.annotations := by
  induction n, before using Nat.le_induction with
  | base => exact .refl _
  | succ n before ih => exact ih.trans (step_grows c config _ _)

end Steps

/-- A finding that a function has at some moment of an audit it has ever after, whether or not the
function is still on the path; what makes a function a source or a sink is at all times what the
record says. -/
theorem findings_kept (c : Collaborators σ) (config : AuditConfig) (r : PathRecord)
    (outputDir : String) (w : World σ) :
    let along := stage c config (start config (Session.ofRecord r outputDir)) w
    let known n := (along n).1.session.annotations
    (∃ last, EndsAt c config (start config (Session.ofRecord r outputDir)) w last) ∧
    (∀ m n f kind, m ≤ n → ((known m).finding f kind).isSome = true →
      ((known n).finding f kind).isSome = true) ∧
    ∀ n f, (known n).finding f .vulnerableSink = r.annotations.finding f .vulnerableSink ∧
      (known n).finding f .attackSource = r.annotations.finding f .attackSource := by
  intro along known
  refine ⟨run_endsAt c config _ w, ?_, ?_⟩
  · intro m n f kind before found
    exact (stage_grows c config _ w before).kept f kind found
  · intro n f
    have grows : r.annotations.Grows (known n) :=
      stage_grows c config (start config (Session.ofRecord r outputDir)) w (Nat.zero_le n)
    exact ⟨grows.seeds f .vulnerableSink rfl, grows.seeds f .attackSource rfl⟩

def folding : ToolCall :=
  ⟨"t1", "compress_call_chain",
    .object [("end_function", .string "d"),
      ("intermediate_functions", .array [.string "b", .string "c"]),
      ("new_edge_label", .string "via b and c"), ("start_function", .string "a")]⟩

theorem graph_folding {s : Session} (fresh : s.history = []) {plan : CompressPlan}
    (prepared : CompressPlan.prepare s.graph "a" ["b", "c"] "d" "via b and c" = .ok plan)
    (w : World Unit) :
    (stage (asking {} [folding]) single (start single s) w 3).1.session.graph =
      CompressPlan.folded s.graph "a" ["b", "c"] "d" "via b and c" := by
  let c := asking {} [folding]
  let reached := stage c single (start single s) w 2
  have asked : reached.1 = _ := stage_asking {} [folding] s w (by simp)
  have called : Calls reached.1 folding := ⟨[], by rw [asked]⟩
  have decoded : Action.ofCall folding = .ok (.compress "a" ["b", "c"] "d" "via b and c") := rfl
  have graph : reached.1.session.graph = s.graph := by rw [asked]
  rcases step_calls c single called reached.2 with ⟨prior, recalled⟩ | ⟨text, isError, done⟩
  · have known := recalled.known
    dsimp only at known
    rw [asked] at known
    simp [fresh, priorResult?] at known
  · have same := (execute_decoded c single reached.1.session { reached.2 with notices := [] }
      decoded).2
    have folded := (Service.compress_carriedOut c single.service reached.1.session "a"
      ["b", "c"] "d" "via b and c" { reached.2 with notices := [] } plan (graph ▸ prepared)).2
    rw [graph] at folded
    exact (done.leaves.graph.trans same.graph).trans folded

def summarized : PathRecord where
  entry := "a"
  sink := "d"
  callGraph := Service.threeCalls.graph.edges
  annotations := Annotations.set .empty "b" .summary "passes its argument on"

theorem prepare_summarized :
    CompressPlan.prepare summarized.graph "a" ["b", "c"] "d" "via b and c" =
      .ok ⟨[("a", "b"), ("b", "c"), ("c", "d")], ⟨"a", "d", "via b and c"⟩⟩ := by
  decide +kernel

theorem findings_kept_folded :
    let along := stage (asking {} [folding]) single
      (start single (Session.ofRecord summarized "out")) { outside := () }
    (along 3).1.session.graph.contains "b" = false ∧
      ((along 3).1.session.annotations.finding "b" .summary).isSome = true := by
  intro along
  have folded : (along 3).1.session.graph =
      CompressPlan.folded summarized.graph "a" ["b", "c"] "d" "via b and c" :=
    graph_folding rfl prepare_summarized { outside := () }
  constructor
  · rw [folded]
    decide +kernel
  · exact (findings_kept (asking {} [folding]) single summarized "out" { outside := () }).2.1 0 3
      "b" .summary (by decide) rfl

end Audit

end PathAudit
