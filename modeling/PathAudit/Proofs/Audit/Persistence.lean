import PathAudit.Proofs.Audit.KeptFindings
import PathAudit.Proofs.Graph.EdgeUniqueness
import PathAudit.Proofs.Store.Import

/-! Sessions that outlive a run. At every stage of an audit the graph has one edge for each pair and
the findings stand in the order of their functions, and these are the graphs and findings that a
record gives back as they were. So a session can be written into its record, saved, read and taken
up again without a loss. -/
namespace PathAudit

theorem CallGraph.nodup_ofEdges (imported : List CallEdge) : (ofEdges imported).pairs.Nodup := by
  rw [ofEdges_eq_edits]
  exact nodup_edits (g := empty) List.nodup_nil _

theorem Annotations.increasing_merge {a : Annotations} (sorted : Increasing a.entries)
    (f : FunctionId) (updates : Findings) : Increasing (a.merge f updates).entries := by
  unfold merge
  split
  · exact sorted
  · exact Dict.increasing_insert sorted f _

/-- The session is about the path of the record, and its graph and findings can be had again from
their written form. -/
structure Session.Restorable (r : PathRecord) (s : Session) : Prop where
  key : s.key = r.key
  entry : s.entry = r.entry
  sink : s.sink = r.sink
  unique : s.graph.pairs.Nodup
  sorted : Increasing s.annotations.entries

namespace Session.Restorable

theorem ofRecord {r : PathRecord} (sorted : r.Sorted) (outputDir : String) :
    Restorable r (Session.ofRecord r outputDir) :=
  ⟨rfl, rfl, rfl, CallGraph.nodup_ofEdges r.callGraph, sorted⟩

section Applied
variable {r : PathRecord} {s : Session} (held : Restorable r s)
include held

theorem sorted_applyTo : (s.applyTo r).Sorted := by
  unfold applyTo
  cases s.verdict with
  | none => exact held.sorted
  | some v => exact held.sorted

theorem ofRecord_applyTo (outputDir : String) :
    let again := Session.ofRecord (s.applyTo r) outputDir
    again.graph = s.graph ∧ again.annotations = s.annotations ∧ again.entry = s.entry ∧
      again.sink = s.sink ∧ again.key = s.key := by
  have graph : CallGraph.ofEdges s.graph.edges = s.graph := CallGraph.ofEdges_edges held.unique
  unfold applyTo
  cases s.verdict with
  | none => exact ⟨graph, rfl, held.entry.symm, held.sink.symm, held.key.symm⟩
  | some v => exact ⟨graph, rfl, held.entry.symm, held.sink.symm, held.key.symm⟩

end Applied

end Session.Restorable

namespace Service
variable {r : Resolver} {s : Session} {action : Action}

section Changes
variable {graph : CallGraph} {annotations : Annotations}

theorem Change.unique (change : Change r s action graph annotations)
    (unique : s.graph.pairs.Nodup) : graph.pairs.Nodup := by
  cases change with
  | extend suffix callers plan findings prepared =>
    have left := ExtendPlan.leaves_of_applied (ExtendPlan.apply_prepared prepared)
    exact left ▸ CallGraph.nodup_extend unique plan
  | compress start intermediates stop label plan prepared =>
    have applied := CompressPlan.apply_prepared s.graph start intermediates stop label plan prepared
    have kept := CallGraph.nodup_compress unique plan
    rwa [CompressPlan.leaves, applied] at kept
  | amend function updates plan prepared => exact unique

theorem Change.sorted (change : Change r s action graph annotations)
    (sorted : Increasing s.annotations.entries) : Increasing annotations.entries := by
  cases change with
  | extend suffix callers plan findings prepared => exact Annotations.increasing_merge sorted _ _
  | compress start intermediates stop label plan prepared => exact sorted
  | amend function updates plan prepared => exact Annotations.increasing_merge sorted _ _

end Changes

theorem Ending.restorable {record : PathRecord} {outcome : ActionOutcome} {after : Session}
    (ending : Ending r s action outcome after) (held : s.Restorable record) :
    after.Restorable record := by
  cases ending with
  | refused text barred => exact held
  | answered text looks => exact held
  | changed text graph annotations artifact change =>
    exact ⟨held.key, held.entry, held.sink, change.unique held.unique, change.sorted held.sorted⟩

end Service

namespace Audit
variable {record : PathRecord}

theorem Answer.restorable {r : Resolver} {call : ToolCall} {s after : Session}
    {told : String × Bool} (answer : Answer r call s told after) (held : s.Restorable record) :
    after.Restorable record := by
  cases answer with
  | repeated prior known => exact { held with }
  | undecodable reason new unread => exact { held with }
  | failed action outcome after new decoded ending error =>
    exact { ending.restorable held with }
  | succeeded action outcome after new decoded ending fine => exact ending.restorable held

def annotates : Phase → Bool
  | .annotating (_ :: _) => true
  | _ => false

theorem Moves.restorable {r : Resolver} {config : AuditConfig} {a b : Audit}
    {made : List Exchange} (move : Moves r config a made b) (elsewhere : annotates a.phase = false)
    (held : a.session.Restorable record) : b.session.Restorable record := by
  cases move with
  | annotate s n node nodes annotations made findings => contradiction
  | act s n call calls text isError after made answer findings =>
    exact { answer.restorable held with }
  | _ => exact { held with }

section Steps
variable {σ : Type} (c : Collaborators σ) (config : AuditConfig)

theorem annotate_restorable {s : Session} (held : s.Restorable record) (node : FunctionId)
    (w : World σ) : (annotate c config s node w).1.Restorable record := by
  unfold annotate
  split
  next => exact held
  next =>
    dsimp only
    split
    next => exact held
    next => exact { held with sorted := Annotations.increasing_merge held.sorted _ _ }

theorem step_restorable {a : Audit} (held : a.session.Restorable record) (w : World σ) :
    (step c config a w).1.session.Restorable record := by
  cases status : a.result? with
  | some result =>
    rw [step_finished c config status]
    exact held
  | none =>
    cases elsewhere : annotates a.phase with
    | false =>
      obtain ⟨made, move, -⟩ := step_moves c config a w status
      exact move.restorable elsewhere held
    | true =>
      obtain ⟨s, n, phase⟩ := a
      rw [step_fst]
      unfold annotates at elsewhere
      split at elsewhere
      next node nodes phase =>
        cases phase
        exact annotate_restorable c config held node _
      next => contradiction

theorem stage_restorable {a : Audit} (held : a.session.Restorable record) (w : World σ) (n : Nat) :
    (stage c config a w n).1.session.Restorable record := by
  induction n with
  | zero => exact held
  | succ n ih => exact step_restorable c config ih _

end Steps

/-- Whatever an audit has made of a record, at its end or before: the session can be written back,
saved under any key of any store and is read as it was written, and a session that is made from what
was read has its graph, edge by edge, its findings, its ends and its key. The verdict, if there is
one, is what the record then says; without one the record says what it said before. -/
theorem session_survives_saving {σ : Type} (c : Collaborators σ) (config : AuditConfig)
    (r : PathRecord) (sorted : r.Sorted) (outputDir : String) (w : World σ)
    (submissions : List Submission) (fine : ∀ x ∈ submissions, x.Sorted) :
    let along := stage c config (start config (Session.ofRecord r outputDir)) w
    (∃ last, EndsAt c config (start config (Session.ofRecord r outputDir)) w last) ∧
    ∀ n, let s := (along n).1.session
      let kept := s.applyTo r
      (∀ key, ((Store.taking submissions).revisionsOf key).length + 1 < 2 ^ 63 →
        ∃ after number, (Store.taking submissions).save key kept = .ok (after, number) ∧
          after.get key = .ok (some kept)) ∧
      (∀ otherDir, let again := Session.ofRecord kept otherDir
        again.graph.edges = s.graph.edges ∧ again.annotations = s.annotations ∧
          again.entry = s.entry ∧ again.sink = s.sink ∧ again.key = s.key) ∧
      (∀ v, s.verdict = some v → kept.doubleCheck = some v.feedback ∧
        kept.conclusion = some v.isVulnerable ∧ kept.auditResult = some v.narrative) ∧
      (s.verdict = none → kept.doubleCheck = r.doubleCheck ∧ kept.conclusion = r.conclusion ∧
        kept.auditResult = r.auditResult) := by
  intro along
  refine ⟨run_endsAt c config _ w, fun n => ?_⟩
  intro s kept
  have held : s.Restorable r := stage_restorable c config (.ofRecord sorted outputDir) w n
  have holds := holds_taking submissions
  refine ⟨fun key fits => ?_, fun otherDir => ?_, fun v decided => ?_, fun undecided => ?_⟩
  · rw [holds.length_revisionsOf] at fits
    obtain ⟨after, saved, stored⟩ := holds.save fits kept
    have readable : Ledger.Sorted ((key, kept) :: Ledger.taking submissions) :=
      List.forall_mem_cons.mpr ⟨held.sorted_applyTo, Ledger.sorted_taking fine⟩
    refine ⟨after, _, saved, ?_⟩
    rw [stored.get readable, List.lookup_cons_self]
  · obtain ⟨graph, rest⟩ := held.ofRecord_applyTo otherDir
    exact ⟨congrArg CallGraph.edges graph, rest⟩
  · simp only [kept, Session.applyTo, decided, and_self]
  · simp only [kept, Session.applyTo, undecided, and_self]

theorem session_survives_saving_folded :
    let s := (stage (asking {} [folding]) single
      (start single (Session.ofRecord summarized "out")) { outside := () } 3).1.session
    ∃ after number kept, (Store.taking []).save "a---d" kept = .ok (after, number) ∧
      after.get "a---d" = .ok (some kept) ∧
      (Session.ofRecord kept "out").graph.edges = [⟨"a", "d", "via b and c"⟩] ∧
      (Session.ofRecord kept "out").annotations = s.annotations := by
  intro s
  have sorted : summarized.Sorted := Dict.increasing_insert (d := .empty) .nil _ _
  have folded : s.graph = CompressPlan.folded summarized.graph "a" ["b", "c"] "d" "via b and c" :=
    graph_folding rfl prepare_summarized { outside := () }
  obtain ⟨-, survives⟩ := session_survives_saving (asking {} [folding]) single summarized sorted
    "out" { outside := () } [] (List.forall_mem_nil _)
  obtain ⟨saves, again, -⟩ := survives 3
  obtain ⟨after, number, saved, read⟩ := saves "a---d" (by decide)
  obtain ⟨edges, findings, -⟩ := again "out"
  refine ⟨after, number, s.applyTo summarized, saved, read, edges.trans ?_, findings⟩
  rw [folded]
  decide +kernel

end Audit

end PathAudit
