import PathAudit.Audit.Batch
import PathAudit.Proofs.Audit.Course

/-! Batches under any schedule. A schedule starts the waiting records in their order, as far as the
batch has room, advances the running jobs in whatever order it likes and counts the results in any
order; the batch may be cancelled at any moment, and what happens outside the records between two
events is left open. The dispatcher that takes the jobs in turns follows one of these schedules. -/
namespace PathAudit

namespace Batch
variable {σ : Type}

section Events
variable (met : Collaborators σ → Prop) (stops : Prop) (config : BatchConfig)

/-- One event of a batch, with the job that ended by it. Each step may be taken with collaborators
of its own, of those that may be met: what a job meets while it waits for them is theirs to decide.
The batch is cancelled only if it may be. -/
inductive Happens : Batch → World σ → List (Job × JobResult) → Batch → World σ → Prop
  | start {b : Batch} {w : World σ} (key : String) (record : PathRecord)
      (rest : List (String × PathRecord)) (next : b.waiting = (key, record) :: rest)
      (room : b.running.length < max config.maxConcurrent 1) :
      Happens b w []
        { b with waiting := rest, running := b.running ++ [.start config key record] } w
  | cancel {b : Batch} {w : World σ} (may : stops) (left : b.waiting ≠ []) :
      Happens b w [] (b.skip w).1 w
  | progress {b : Batch} {w : World σ} (c : Collaborators σ) (known : met c) (j : Job)
      (rest : List Job) (picked : b.running.Perm (j :: rest)) (active : j.audit.result? = none) :
      Happens b w []
        { b with running := { j with audit := (Audit.step c config.audit j.audit w).1 } :: rest }
        (Audit.step c config.audit j.audit w).2
  | finish {b : Batch} {w : World σ} (j : Job) (rest : List Job) (result : JobResult)
      (picked : b.running.Perm (j :: rest)) (ended : j.audit.result? = some result) :
      Happens b w [(j, (j.settle result w).1)]
        { b with running := rest, ended := b.ended ++ [(j.key, (j.settle result w).1)] }
        (j.settle result w).2
  | count {b : Batch} {w : World σ} (key : String) (result : JobResult)
      (front back : List (String × JobResult)) (through : b.waiting = [])
      (listed : b.ended = front ++ (key, result) :: back) :
      Happens b w [] { b with ended := front ++ back, summary := b.summary.count result } w
  | meanwhile {b : Batch} {w : World σ} (seen : World σ) (running : List Job) (inTurn : Bool)
      (order : running.Perm b.running) (same : seen.store.records = w.store.records) :
      Happens b w [] { b with running, inTurn } seen

/-- Events one after the other, with the jobs that have ended so far. -/
inductive ScheduleWith (opening : Batch) (before : World σ) :
    List (Job × JobResult) → Batch → World σ → Prop
  | nothing : ScheduleWith opening before [] opening before
  | next {finished now : List (Job × JobResult)} {b after : Batch} {w seen : World σ}
      (earlier : ScheduleWith opening before finished b w)
      (event : Happens met stops config b w now after seen) :
      ScheduleWith opening before (finished ++ now) after seen

/-- Any schedule: all collaborators may be met, and the batch may be cancelled. -/
abbrev Schedule : Batch → World σ → List (Job × JobResult) → Batch → World σ → Prop :=
  ScheduleWith (fun _ => True) True config

end Events

def Through (b : Batch) : Prop := b.waiting = [] ∧ b.running = [] ∧ b.ended = []

section Turns
variable {met : Collaborators σ → Prop} {stops : Prop} {config : BatchConfig} {opening : Batch}
  {before : World σ} {finished : List (Job × JobResult)}

theorem ScheduleWith.onward {b after : Batch} {w seen : World σ}
    (earlier : ScheduleWith met stops config opening before finished b w)
    (event : Happens met stops config b w [] after seen) :
    ScheduleWith met stops config opening before finished after seen := by
  have later := earlier.next event
  rwa [List.append_nil] at later

theorem ScheduleWith.elsewhere {b : Batch} {w seen : World σ}
    (earlier : ScheduleWith met stops config opening before finished b w)
    (same : seen.store.records = w.store.records) :
    ScheduleWith met stops config opening before finished b seen :=
  earlier.onward (.meanwhile seen b.running b.inTurn .rfl same)

theorem ScheduleWith.report {b : Batch} {w : World σ}
    (earlier : ScheduleWith met stops config opening before finished b w)
    (through : b.waiting = []) :
    ScheduleWith met stops config opening before finished (b.report w).1 (b.report w).2 := by
  obtain ⟨waiting, running, ended, summary, inTurn⟩ := b
  have counted : ScheduleWith met stops config opening before finished
      ⟨waiting, running, [], ended.foldl (fun s entry => s.count entry.2) summary, inTurn⟩ w := by
    induction ended generalizing summary with
    | nil => exact earlier
    | cons entry ended ih =>
      exact ih _ (earlier.onward (.count entry.1 entry.2 [] ended through rfl)) through
  exact counted.elsewhere rfl

theorem ScheduleWith.launch {b : Batch} {w : World σ} {waiting : List (String × PathRecord)}
    (earlier : ScheduleWith met stops config opening before finished { b with waiting } w)
    {cancelled : Bool} (may : cancelled = true → stops) :
    ScheduleWith met stops config opening before finished (launch config cancelled waiting b w).1
      (launch config cancelled waiting b w).2 := by
  induction waiting generalizing b w with
  | nil => exact earlier
  | cons entry rest ih =>
    obtain ⟨key, record⟩ := entry
    unfold Batch.launch
    split
    next cancelled =>
      exact (earlier.onward (.cancel (may cancelled) (List.cons_ne_nil _ _))).elsewhere rfl
    next =>
      split
      next room => exact ih ((earlier.onward (.start key record rest rfl room)).elsewhere rfl)
      next => exact earlier

theorem ScheduleWith.ready {b : Batch} {w : World σ}
    (earlier : ScheduleWith met stops config opening before finished b w) {cancelled : σ → Bool}
    (may : ∀ outside, cancelled outside = true → stops) :
    ScheduleWith met stops config opening before finished (ready config cancelled b w).1
      (ready config cancelled b w).2 := by
  unfold Batch.ready
  split
  next => exact earlier
  next =>
    have launched := ScheduleWith.launch (b := b) earlier (may w.outside)
    unfold look
    generalize Batch.launch config (cancelled w.outside) b.waiting b w = next at launched ⊢
    dsimp only
    split
    next through => exact launched.report (List.isEmpty_iff.mp through)
    next => exact launched

theorem ScheduleWith.stepJob {b : Batch} {w : World σ} {j : Job} {rest : List Job}
    (earlier : ScheduleWith met stops config opening before finished b w) {c : Collaborators σ}
    (known : met c) (jobs : b.running = j :: rest) (active : j.audit.result? = none) :
    ∃ more, ScheduleWith met stops config opening before (finished ++ more)
      (stepJob c config b j rest w).1 (stepJob c config b j rest w).2 := by
  have stepped := earlier.onward (.progress c known j rest (.of_eq jobs) active)
  unfold Batch.stepJob
  generalize Audit.step c config.audit j.audit w = next at stepped ⊢
  obtain ⟨audit, after⟩ := next
  dsimp only at stepped ⊢
  split
  next result ended =>
    have settled := stepped.next (.finish { j with audit } rest result .rfl ended)
    exact ⟨_, settled.onward (.meanwhile _ rest false .rfl rfl)⟩
  next =>
    refine ⟨[], ?_⟩
    rw [List.append_nil]
    split
    next => exact stepped.onward (.meanwhile after _ true .rfl rfl)
    next => exact stepped.onward (.meanwhile after _ false List.perm_append_comm rfl)

end Turns

/-- Between two steps of the dispatcher no running job has ended, and there is one where a turn goes
on. -/
structure Steady (b : Batch) : Prop where
  active : ∀ j ∈ b.running, j.audit.result? = none
  turn : b.inTurn = true → b.running ≠ []

section Dispatcher
variable {config : BatchConfig}

theorem active_start (config : BatchConfig) (key : String) (record : PathRecord) :
    (Job.start config key record).audit.result? = none := by
  unfold Job.start Audit.start Audit.result?
  cases config.audit.annotateOnStart with
  | true => rfl
  | false => rfl

theorem active_launch (config : BatchConfig) (cancelled : Bool)
    (waiting : List (String × PathRecord)) {b : Batch} (w : World σ)
    (active : ∀ j ∈ b.running, j.audit.result? = none) :
    ∀ j ∈ (launch config cancelled waiting b w).1.running, j.audit.result? = none := by
  induction waiting generalizing b w with
  | nil => exact active
  | cons entry rest ih =>
    unfold launch
    split
    next => exact active
    next =>
      split
      next =>
        refine ih _ (List.forall_mem_append.mpr ⟨active, ?_⟩)
        exact List.forall_mem_singleton.mpr (active_start config _ _)
      next => exact active

theorem running_launch (config : BatchConfig) (cancelled : Bool)
    (waiting : List (String × PathRecord)) (b : Batch) (w : World σ)
    (none : (launch config cancelled waiting b w).1.running = []) :
    (launch config cancelled waiting b w).1.waiting = [] := by
  induction waiting generalizing b w with
  | nil => rfl
  | cons entry rest ih =>
    unfold launch at none ⊢
    split at none
    next cancelled =>
      rw [if_pos cancelled]
      rfl
    next going =>
      rw [if_neg going]
      split at none
      next room =>
        rw [if_pos room]
        exact ih _ _ none
      next full =>
        have idle : b.running = [] := none
        rw [idle] at full
        exact absurd (Nat.lt_of_lt_of_le Nat.zero_lt_one (Nat.le_max_right _ _)) full

theorem Steady.ready {b : Batch} (steady : b.Steady) (config : BatchConfig) (cancelled : σ → Bool)
    (w : World σ) :
    (∀ j ∈ (ready config cancelled b w).1.running, j.audit.result? = none) ∧
      ((ready config cancelled b w).1.running = [] → (ready config cancelled b w).1.Through) := by
  unfold Batch.ready
  split
  next going => exact ⟨steady.active, fun none => absurd none (steady.turn going)⟩
  next =>
    have active := active_launch config (cancelled w.outside) b.waiting w steady.active
    have room := running_launch config (cancelled w.outside) b.waiting b w
    unfold look
    generalize launch config (cancelled w.outside) b.waiting b w = next at active room ⊢
    dsimp only
    split
    next through => exact ⟨active, fun none => ⟨List.isEmpty_iff.mp through, none, rfl⟩⟩
    next left =>
      refine ⟨active, fun none => absurd ?_ left⟩
      exact List.isEmpty_iff.mpr (room none)

theorem steady_stepJob (c : Collaborators σ) (config : BatchConfig) (b : Batch) (j : Job)
    {rest : List Job} (w : World σ) (active : ∀ other ∈ rest, other.audit.result? = none) :
    (stepJob c config b j rest w).1.Steady := by
  unfold stepJob
  dsimp only
  split
  next => exact ⟨active, nofun⟩
  next going =>
    split
    next => exact ⟨List.forall_mem_cons.mpr ⟨going, active⟩, fun _ => List.cons_ne_nil _ _⟩
    next =>
      refine ⟨List.forall_mem_append.mpr ⟨active, ?_⟩, nofun⟩
      exact List.forall_mem_singleton.mpr going

section Equations
variable {c : Collaborators σ} {cancelled : σ → Bool} {b : Batch} {w : World σ}

theorem run_of_idle (none : (Batch.ready config cancelled b w).1.running = []) :
    run c config cancelled b w =
      ((Batch.ready config cancelled b w).1.summary, (Batch.ready config cancelled b w).2) := by
  rw [run]
  split
  next now seen looked =>
    rw [looked] at none ⊢
    split
    next => rfl
    next j rest jobs => exact absurd (none.symm.trans jobs) (List.cons_ne_nil _ _).symm

theorem run_of_active {j : Job} {rest : List Job}
    (jobs : (Batch.ready config cancelled b w).1.running = j :: rest)
    (active : j.audit.result? = none) :
    run c config cancelled b w = run c config cancelled
      (stepJob c config (Batch.ready config cancelled b w).1 j rest
        (Batch.ready config cancelled b w).2).1
      (stepJob c config (Batch.ready config cancelled b w).1 j rest
        (Batch.ready config cancelled b w).2).2 := by
  rw [run]
  split
  next now seen looked =>
    rw [looked] at jobs ⊢
    split
    next none => exact absurd (none.symm.trans jobs) (List.cons_ne_nil _ _).symm
    next first others listed =>
      obtain ⟨rfl, rfl⟩ := List.cons.inj (listed.symm.trans jobs)
      rw [dif_pos active]

end Equations

theorem ScheduleWith.run {met : Collaborators σ → Prop} {stops : Prop} {opening b : Batch}
    {before w : World σ} {finished : List (Job × JobResult)}
    (earlier : ScheduleWith met stops config opening before finished b w) (steady : b.Steady)
    {c : Collaborators σ} (known : met c) {cancelled : σ → Bool}
    (may : ∀ outside, cancelled outside = true → stops) :
    ∃ all last,
      ScheduleWith met stops config opening before all last (run c config cancelled b w).2 ∧
      last.Through ∧ (run c config cancelled b w).1 = last.summary := by
  -- The induction is on the dispatcher's own recursion; the schedule so far grows along.
  induction b, w using Batch.run.induct c config cancelled generalizing finished with
  | case1 b w now seen looked none =>
    have last : (Batch.ready config cancelled b w).1.running = [] := by rw [looked, none]
    rw [run_of_idle last]
    exact ⟨finished, _, earlier.ready may, (steady.ready config cancelled w).2 last, rfl⟩
  | case2 b w now seen looked j rest jobs active next after stepped ih =>
    have shown : (Batch.ready config cancelled b w).1.running = j :: rest := by rw [looked, jobs]
    have going := (steady.ready config cancelled w).1
    rw [shown, List.forall_mem_cons] at going
    obtain ⟨more, onward⟩ := (earlier.ready may).stepJob known shown active
    have still := steady_stepJob c config (Batch.ready config cancelled b w).1 j
      (Batch.ready config cancelled b w).2 going.2
    rw [run_of_active shown active, looked, stepped]
    rw [looked, stepped] at onward still
    exact ih onward still
  | case3 b w now seen looked j rest jobs ended =>
    have going := (steady.ready config cancelled w).1 j
    rw [looked, jobs] at going
    exact absurd (going List.mem_cons_self) ended

theorem steady_opening (waiting : List (String × PathRecord)) : Steady { waiting } :=
  ⟨List.forall_mem_nil _, fun turn => absurd turn Bool.false_ne_true⟩

/-- The dispatcher takes the pending records through a schedule that meets its collaborators only,
and is cancelled only if it ever is. -/
theorem runPending_follows (met : Collaborators σ → Prop) (stops : Prop) (config : BatchConfig)
    {left : List (String × PathRecord)} {w : World σ} (listed : w.store.pending = .ok left)
    {c : Collaborators σ} (known : met c) {cancelled : σ → Bool}
    (may : ∀ outside, cancelled outside = true → stops) :
    ∃ finished b after,
      ScheduleWith met stops config { waiting := left } w finished b after ∧ b.Through ∧
      runPending c config cancelled w = (.ok b.summary, after) := by
  have opened : ScheduleWith met stops config { waiting := left } w [] { waiting := left } w :=
    .nothing
  obtain ⟨finished, last, schedule, through, told⟩ := opened.run (steady_opening left) known may
  refine ⟨finished, last, _, schedule, through, ?_⟩
  rw [runPending, listed]
  exact Prod.ext (congrArg Except.ok told) rfl

end Dispatcher

end Batch

end PathAudit
