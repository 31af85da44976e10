import PathAudit.Proofs.Audit.BatchAccounting
import PathAudit.Proofs.Audit.Isolation

/-! Batches come to the same whatever the schedule. Where the collaborators' answers are functions
of what they are asked and nothing is cancelled, each record comes to what it comes to when it is
audited alone: a job's audit is its own, and it saves under its own key. So neither the number of
jobs that may run at a time nor the order of their steps can be told from what a batch leaves. -/
namespace PathAudit

theorem Audit.records_run {σ : Type} (c : Collaborators σ) (config : AuditConfig) (a : Audit)
    (w : World σ) : (run c config a w).2.2.store.records = w.store.records := by
  induction a, w using run.induct c config with
  | case1 a w result ended => rw [run_of_ended c config ended]
  | case2 a w running next after stepped ih =>
    have kept := records_step c config a w
    rw [run_of_running c config a w running]
    rw [stepped] at kept ⊢
    exact ih.trans kept

namespace Job
variable {σ τ : Type} {j : Job} {result : JobResult} {w : World σ} {v : World τ}

theorem settle_alike (regular : w.store.Regular) (other : v.store.Regular)
    (same : w.store.revisionsOf j.key = v.store.revisionsOf j.key) :
    (j.settle result w).1 = (j.settle result v).1 ∧
      (j.settle result w).2.store.revisionsOf j.key =
        (j.settle result v).2.store.revisionsOf j.key := by
  unfold settle
  cases result with
  | error e => exact ⟨rfl, same⟩
  | ok outcome =>
    obtain ⟨e, refused, again⟩ | ⟨n, later, last, saved, again⟩ :=
      Store.save_of_revisionsOf same (j.audit.session.applyTo j.record)
    · rw [refused, again]
      exact ⟨rfl, same⟩
    · rw [saved, again]
      refine ⟨rfl, ?_⟩
      rw [regular.revisionsOf_save saved, other.revisionsOf_save again, same]

theorem revisionsOf_settle (regular : w.store.Regular) {key : String} (apart : key ≠ j.key) :
    (j.settle result w).2.store.revisionsOf key = w.store.revisionsOf key := by
  unfold settle
  cases result with
  | error e => rfl
  | ok outcome =>
    dsimp only
    split
    next later n saved => exact regular.revisionsOf_save_of_ne saved apart
    next => rfl

theorem run_of_ran {c : Collaborators σ} {config : BatchConfig} {key : String}
    {record : PathRecord} {session : Session} {last : World σ}
    (ran : Audit.run c config.audit (start config key record).audit
      (w.tell (Session.openingNotices record)) = (result, session, last)) :
    run c config key record w =
      settle { start config key record with
        audit := { (start config key record).audit with session } } result last := by
  unfold run
  dsimp only
  rw [ran]

/-- What a record comes to that is audited alone, and the store after it. -/
def solo (m : Manner) (config : BatchConfig) (s : Store) (entry : String × PathRecord) :
    JobResult × Store :=
  let ran := run m.alone config entry.1 entry.2 { outside := (), store := s }
  (ran.1, ran.2.store)

def Bound (m : Manner) (config : BatchConfig) (j : Job) : Prop :=
  SameEnd (Audit.run m.alone config.audit j.audit { outside := () })
    (Audit.run m.alone config.audit (start config j.key j.record).audit { outside := () })

section Bound
variable {m : Manner} {config : BatchConfig}

theorem bound_start (m : Manner) (config : BatchConfig) (key : String) (record : PathRecord) :
    Bound m config (start config key record) := ⟨rfl, rfl⟩

theorem Bound.step (bound : j.Bound m config) {c : Collaborators σ} (follows : c.Follows m)
    (w : World σ) (active : j.audit.result? = none) :
    Bound m config { j with audit := (Audit.step c config.audit j.audit w).1 } := by
  have moved := Audit.step_alike follows m.follows_alone config.audit j.audit w { outside := () }
  have onward := Audit.run_of_running m.alone config.audit j.audit { outside := () } active
  unfold Bound at bound ⊢
  rw [onward] at bound
  dsimp only
  rw [moved]
  have same := Audit.run_alike m.follows_alone m.follows_alone config.audit
    (Audit.step m.alone config.audit j.audit { outside := () }).1 { outside := () }
    (Audit.step m.alone config.audit j.audit { outside := () }).2
  exact ⟨same.1.trans bound.1, same.2.trans bound.2⟩

theorem Bound.settle (bound : j.Bound m config) (ended : j.audit.result? = some result)
    {s : Store} (regular : w.store.Regular) (other : s.Regular)
    (same : w.store.revisionsOf j.key = s.revisionsOf j.key) :
    (j.settle result w).1 = (solo m config s j.entry).1 ∧
      (j.settle result w).2.store.revisionsOf j.key =
        (solo m config s j.entry).2.revisionsOf j.key := by
  obtain ⟨ends, session⟩ := bound
  rw [Audit.run_of_ended m.alone config.audit ended] at ends session
  have ran (v : World Unit) : Audit.run m.alone config.audit (start config j.key j.record).audit v =
      (result, j.audit.session,
        (Audit.run m.alone config.audit (start config j.key j.record).audit v).2.2) := by
    have alike := Audit.run_alike m.follows_alone m.follows_alone config.audit
      (start config j.key j.record).audit v { outside := () }
    exact Prod.ext (alike.1.trans ends.symm) (Prod.ext (alike.2.trans session.symm) rfl)
  have alone := run_of_ran (w := { outside := (), store := s }) (ran _)
  have kept := Audit.records_run m.alone config.audit (start config j.key j.record).audit
    (World.tell { outside := (), store := s } (Session.openingNotices j.record))
  rw [solo, entry]
  dsimp only
  rw [alone]
  refine settle_alike regular (other.of_records kept) ?_
  rw [same, Store.revisionsOf_of_records kept]
  rfl

end Bound

end Job

namespace Batch
variable {σ : Type} {m : Manner} {config : BatchConfig} {b after : Batch} {before w seen : World σ}
  {finished now : List (Job × JobResult)} {left : List (String × PathRecord)}

/-- Of jobs that are let alone: those that run are on their way to where they end alone, and those
that have ended are there, and so is what they saved. -/
structure Isolated (m : Manner) (config : BatchConfig) (opening : Store)
    (finished : List (Job × JobResult)) (b : Batch) (s : Store) : Prop where
  running : ∀ j ∈ b.running, j.Bound m config
  results : ∀ x ∈ finished, x.2 = (Job.solo m config opening x.1.entry).1
  revisions : ∀ x ∈ finished,
    s.revisionsOf x.1.key = (Job.solo m config opening x.1.entry).2.revisionsOf x.1.key
  unskipped : b.summary.skipped = 0

theorem Happens.isolated {opening : Store}
    (event : Happens (·.Follows m) False config b w now after seen) (regular : opening.Regular)
    (distinct : (left.map (·.1)).Nodup) (accounts : Accounts left opening finished b w.store)
    (isolated : Isolated m config opening finished b w.store) :
    Isolated m config opening (finished ++ now) after seen.store := by
  obtain ⟨running, results, revisions, unskipped⟩ := isolated
  have others : ∀ {s : Store}, s.records = w.store.records → ∀ x ∈ finished, s.revisionsOf x.1.key =
      (Job.solo m config opening x.1.entry).2.revisionsOf x.1.key := fun same x member =>
    (Store.revisionsOf_of_records same x.1.key).trans (revisions x member)
  cases event with
  | start key record rest next room =>
    rw [List.append_nil]
    refine ⟨List.forall_mem_append.mpr ⟨running, ?_⟩, results, revisions, unskipped⟩
    exact List.forall_mem_singleton.mpr (Job.bound_start m config key record)
  | cancel may => exact may.elim
  | progress c known j rest picked active =>
    rw [List.append_nil]
    have all : ∀ other ∈ j :: rest, other.Bound m config := fun other member =>
      running other (picked.mem_iff.mpr member)
    obtain ⟨first, waiting⟩ := List.forall_mem_cons.mp all
    exact ⟨List.forall_mem_cons.mpr ⟨first.step known w active, waiting⟩, results,
      others (Audit.records_step c config.audit j.audit w), unskipped⟩
  | finish j rest result picked ended =>
    have member : j ∈ b.running := picked.mem_iff.mpr List.mem_cons_self
    have untouched := accounts.kept.others j.key (accounts.shared.absent distinct member)
    have settled := (running j member).settle ended accounts.kept.regular regular untouched
    refine ⟨fun other listed => running other (picked.mem_iff.mpr (List.mem_cons_of_mem _ listed)),
      ?_, ?_, unskipped⟩
    · exact List.forall_mem_append.mpr ⟨results, List.forall_mem_singleton.mpr settled.1⟩
    · refine List.forall_mem_append.mpr ⟨fun x early => ?_, List.forall_mem_singleton.mpr settled.2⟩
      have apart : x.1.key ≠ j.key := fun same => by
        have once := (List.nodup_append.mp (accounts.shared.nodup distinct)).2.2
        exact once j.key (List.mem_map_of_mem member) x.1.key (List.mem_map_of_mem early) same.symm
      exact (Job.revisionsOf_settle accounts.kept.regular apart).trans (revisions x early)
  | count key result front back through listed =>
    rw [List.append_nil]
    refine ⟨running, results, revisions, ?_⟩
    cases result with
    | error e => exact unskipped
    | ok outcome => exact unskipped
  | meanwhile seen order inTurn picked same =>
    rw [List.append_nil]
    exact ⟨fun j listed => running j (picked.mem_iff.mp listed), results, others same, unskipped⟩

theorem ScheduleWith.isolated (regular : before.store.Regular)
    (listed : before.store.pending = .ok left)
    (schedule : ScheduleWith (·.Follows m) False config { waiting := left } before finished b w) :
    Isolated m config before.store finished b w.store := by
  induction schedule with
  | nothing => exact ⟨List.forall_mem_nil _, List.forall_mem_nil _, List.forall_mem_nil _, rfl⟩
  | next earlier event ih =>
    exact event.isolated regular (regular.nodup_pending listed)
      (earlier.accounts regular listed) ih

def outcomes (m : Manner) (config : BatchConfig) (opening : Store)
    (left : List (String × PathRecord)) : List ((String × PathRecord) × AuditOutcome) :=
  concluded (left.map fun entry => (entry, (Job.solo m config opening entry).1))

theorem concluded_map {α β : Type} (f : α → β) (results : List (α × JobResult)) :
    concluded (results.map fun x => (f x.1, x.2)) =
      (concluded results).map fun x => (f x.1, x.2) := by
  rw [concluded, concluded, List.filterMap_map, List.map_filterMap]
  refine List.filterMap_congr fun x _ => ?_
  obtain ⟨a, result⟩ := x
  cases result with
  | error e => rfl
  | ok outcome => rfl

structure Merged (m : Manner) (config : BatchConfig) (opening : Store)
    (left : List (String × PathRecord)) (summary : BatchSummary) (s : Store) : Prop where
  regular : s.Regular
  summary : summary = ⟨(outcomes m config opening left).length,
    (outcomes m config opening left).countP (·.2.verdict.isVulnerable),
    left.length - (outcomes m config opening left).length, 0⟩
  saved : ∀ entry ∈ left,
    s.revisionsOf entry.1 = (Job.solo m config opening entry).2.revisionsOf entry.1
  others : ∀ key, key ∉ left.map (·.1) → s.revisionsOf key = opening.revisionsOf key

theorem ScheduleWith.merged (regular : before.store.Regular)
    (listed : before.store.pending = .ok left)
    (schedule : ScheduleWith (·.Follows m) False config { waiting := left } before finished b w)
    (through : b.Through) : Merged m config before.store left b.summary w.store := by
  obtain ⟨waits, runs, ends⟩ := through
  obtain ⟨counted, shared, -, -, kept⟩ := schedule.accounts regular listed
  obtain ⟨-, results, revisions, unskipped⟩ := schedule.isolated regular listed
  obtain ⟨skipped, many, -, all⟩ := shared
  rw [List.eq_nil_of_length_eq_zero (many.trans unskipped), waits, runs, List.append_nil,
    List.nil_append, List.map_nil, List.nil_append] at all
  have same : (finished.map fun x => (x.1.entry, x.2)).Perm
      (left.map fun entry => (entry, (Job.solo m config before.store entry).1)) := by
    have shown : (finished.map fun x => (x.1.entry, x.2)) =
        (finished.map (·.1.entry)).map fun entry =>
          (entry, (Job.solo m config before.store entry).1) := by
      rw [List.map_map]
      exact List.map_congr_left fun x member => congrArg (Prod.mk x.1.entry) (results x member)
    rw [shown]
    exact all.map _
  have told : ((concluded finished).map fun x => (x.1.entry, x.2)).Perm
      (outcomes m config before.store left) := by
    rw [← concluded_map]
    exact same.filterMap _
  obtain ⟨concludes, flags, counts⟩ := counted
  have none : concluded b.ended = [] := by rw [ends]; rfl
  rw [none, List.length_nil, Nat.add_zero] at concludes
  rw [none, List.countP_nil, Nat.add_zero] at flags
  rw [ends, List.length_nil, Nat.add_zero] at counts
  refine ⟨kept.regular, ?_, ?_, ?_⟩
  · have length := told.length_eq
    have vulnerable := told.countP_eq (·.2.verdict.isVulnerable)
    have every := all.length_eq
    rw [List.length_map] at length every
    rw [List.countP_map] at vulnerable
    generalize b.summary = summary at *
    obtain ⟨done, found, failed, left⟩ := summary
    dsimp only at concludes flags counts unskipped
    rw [BatchSummary.mk.injEq]
    exact ⟨concludes.trans length, flags.trans vulnerable, by omega, unskipped⟩
  · intro entry member
    obtain ⟨x, ended, rfl⟩ := List.mem_map.mp (all.mem_iff.mpr member)
    exact revisions x ended
  · intro key absent
    refine kept.others key fun ended => absent ?_
    obtain ⟨x, member, rfl⟩ := List.mem_map.mp ((keys_sublist finished).mem ended)
    exact List.mem_map.mpr ⟨x.1.entry, all.mem_iff.mp (List.mem_map_of_mem member), rfl⟩

/-- Some schedule on which nothing is cancelled and the collaborators' answers are of this manner
takes the batch of these records through, to this summary and this world. -/
def Completes (m : Manner) (config : BatchConfig) (left : List (String × PathRecord))
    (before : World σ) (summary : BatchSummary) (after : World σ) : Prop :=
  ∃ finished b,
    ScheduleWith (·.Follows m) False config { waiting := left } before finished b after ∧
    b.Through ∧ b.summary = summary

theorem Merged.alike {opening s t : Store} {first second : BatchSummary}
    (one : Merged m config opening left first s) (other : Merged m config opening left second t) :
    first = second ∧ s.latest = t.latest ∧ ∀ key, s.get key = t.get key := by
  have same (key : String) : s.revisionsOf key = t.revisionsOf key := by
    by_cases listed : key ∈ left.map (·.1)
    · obtain ⟨entry, member, rfl⟩ := List.mem_map.mp listed
      exact (one.saved entry member).trans (other.saved entry member).symm
    · exact (one.others key listed).trans (other.others key listed).symm
  exact ⟨one.summary.trans other.summary.symm, one.regular.latest_of_revisionsOf other.regular same,
    fun key => Store.get_of_revisionsOf (same key)⟩

/-- However many jobs may run at a time and in whatever order they take their steps, as long as
answers depend on what is asked alone, drawings succeed and nothing is cancelled, a batch comes to
the same summary and leaves the same latest record under each key. The dispatcher is no exception.
-/
theorem batch_confluent (m : Manner) (config : BatchConfig) (n k : Nat) (first second : World σ)
    (same : first.store = second.store) (regular : first.store.Regular) :
    (∀ left, first.store.pending = .ok left → ∀ summary after told last,
      Completes m { config with maxConcurrent := n } left first summary after →
      Completes m { config with maxConcurrent := k } left second told last →
      summary = told ∧ after.store.latest = last.store.latest ∧
        ∀ key, after.store.get key = last.store.get key) ∧
    ∀ (c : Collaborators σ) (cancelled : σ → Bool), c.Follows m →
      (∀ outside, cancelled outside = false) →
      (∃ e, first.store.pending = .error e ∧
        runPending c { config with maxConcurrent := n } cancelled first =
          (.error (.store e), first)) ∨
      ∃ left summary after, first.store.pending = .ok left ∧
        Completes m { config with maxConcurrent := n } left first summary after ∧
        runPending c { config with maxConcurrent := n } cancelled first = (.ok summary, after) := by
  constructor
  · rintro left listed summary after told last ⟨finished, b, schedule, through, rfl⟩
      ⟨others, d, again, completed, rfl⟩
    have one := schedule.merged regular listed through
    rw [same] at regular listed
    have other := again.merged regular listed completed
    rw [← same] at other
    -- What a record comes to alone does not depend on how many jobs may run at a time.
    have merged :
        Merged m { config with maxConcurrent := n } first.store left d.summary last.store :=
      ⟨other.regular, other.summary, other.saved, other.others⟩
    exact one.alike merged
  · intro c cancelled follows never
    cases listed : first.store.pending with
    | error e =>
      refine Or.inl ⟨e, rfl, ?_⟩
      rw [runPending, listed]
    | ok left =>
      obtain ⟨finished, last, after, schedule, through, ran⟩ :=
        runPending_follows (·.Follows m) False { config with maxConcurrent := n } listed follows
          fun outside cancels => absurd ((never outside).symm.trans cancels) Bool.false_ne_true
      exact Or.inr ⟨left, last.summary, after, rfl, ⟨finished, last, schedule, through, rfl⟩, ran⟩

def agreed : Manner where
  resolver := ({} : CodeBase).resolver
  answer role _ _ :=
    .ok [.done (.ofText (if role = .verifier then Audit.acceptance else "safe")) .endTurn]
  picture _ _ := .text ""

theorem batch_confluent_pair :
    let w : World Unit :=
      { outside := (), store := Store.taking [.one "a" evaluating, .one "b" evaluating] }
    let apart := runPending agreed.alone { together with maxConcurrent := 1 } (fun _ => false) w
    let both := runPending agreed.alone { together with maxConcurrent := 2 } (fun _ => false) w
    w.store.pending = .ok [("a", evaluating), ("b", evaluating)] ∧ agreed.alone.Follows agreed ∧
      w.store.Regular ∧ ∃ summary, apart.1 = .ok summary ∧ both.1 = .ok summary ∧
        apart.2.store.latest = both.2.store.latest := by
  intro w apart both
  have regular : w.store.Regular := (holds_taking _).regular
  have listed : w.store.pending = .ok [("a", evaluating), ("b", evaluating)] := pending_pair
  obtain ⟨alike, first⟩ := batch_confluent agreed together 1 2 w w rfl regular
  have second := (batch_confluent agreed together 2 1 w w rfl regular).2
  refine ⟨listed, agreed.follows_alone, regular, ?_⟩
  obtain ⟨e, failed, -⟩ | ⟨left, summary, after, shown, completes, ran⟩ :=
    first agreed.alone (fun _ => false) agreed.follows_alone fun _ => rfl
  · rw [listed] at failed
    contradiction
  obtain ⟨e, failed, -⟩ | ⟨others, told, last, known, follows, again⟩ :=
    second agreed.alone (fun _ => false) agreed.follows_alone fun _ => rfl
  · rw [listed] at failed
    contradiction
  obtain rfl : left = others := Except.ok.inj (shown.symm.trans known)
  obtain ⟨rfl, same, -⟩ := alike left shown summary after told last completes follows
  refine ⟨summary, congrArg Prod.fst ran, congrArg Prod.fst again, ?_⟩
  have last := congrArg (·.2.store.latest) again
  exact (congrArg (·.2.store.latest) ran).trans (same.trans last.symm)

end Batch

end PathAudit
