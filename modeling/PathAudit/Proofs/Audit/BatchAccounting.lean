import PathAudit.Proofs.Audit.Persistence
import PathAudit.Proofs.Audit.Schedules
import PathAudit.Proofs.Audit.Transcript
import PathAudit.Proofs.Audit.Verdict
import PathAudit.Proofs.Store.Saving

/-! What a batch comes to. Each pending record is, at every moment of a schedule, either waiting, or
run by one job, or ended, or skipped, and it is ended once. Only a job that ends with a verdict
writes a record, and it writes one revision of its own key. So the summary counts the keys, the keys
with a new revision are those that were concluded, and the others are pending as before. -/
namespace PathAudit

namespace Store
variable {s after : Store}

theorem records_insertEvent {row : EventRow} (inserted : s.insertEvent row = .ok after) :
    after.records = s.records := by
  obtain ⟨-, -, ⟨⟩⟩ := bind_eq_ok inserted
  rfl

theorem records_recorded (s : Store) (key : String) (kind : EventKind) (payload : Json) :
    (s.recorded key kind payload).records = s.records := by
  unfold recorded
  split
  next after event appended =>
    obtain ⟨sequence, -, appended⟩ := bind_eq_ok appended
    obtain ⟨stored, inserted, ⟨⟩⟩ := bind_eq_ok appended
    exact records_insertEvent inserted
  next => rfl

end Store

namespace Audit
variable {σ : Type} (c : Collaborators σ) (config : AuditConfig)

theorem records_advance (a : Audit) (w : World σ) :
    (advance c config a w).2.store.records = w.store.records := by
  obtain ⟨s, n, phase⟩ := a
  cases phase with
  | annotating nodes =>
    cases nodes with
    | nil => rfl
    | cons node nodes =>
      have stored := store_annotate c config s node w
      simp only [advance, stored]
  | drawing => exact congrArg Store.records (store_drawOrWarn c s none "initial render failed" w)
  | reasoning =>
    simp only [advance]
    split
    next =>
      rw [World.store_record, Store.records_recorded]
      rfl
    next =>
      have told := reason_told c config (n + 1) s w
      generalize reason c config (n + 1) s w = answer at told ⊢
      obtain ⟨result, session, later⟩ := answer
      rcases told with ⟨e, rfl, -, store⟩ | ⟨reply, role, rfl, -, store⟩
      · exact congrArg Store.records store
      · have kept := (congrArg Store.records store).trans (Store.records_recorded _ _ _ _)
        dsimp only
        split
        next => exact kept
        next => exact kept
  | acting calls =>
    cases calls with
    | nil => rfl
    | cons call calls =>
      obtain ⟨text, isError, -, store⟩ := act_told c config call s w
      exact (congrArg Store.records store).trans (Store.records_recorded _ _ _ _)
  | proposing text =>
    exact congrArg Store.records (store_drawOrWarn c s (some (Reply.remark text))
      "render of candidate judgment failed" w)
  | verifying text remark =>
    have told := judge_told c config text remark s w
    simp only [advance]
    generalize judge c config text remark s w = answer at told ⊢
    obtain ⟨result, session, later⟩ := answer
    rcases told with ⟨e, rfl, -, store, -⟩ | ⟨feedback, rfl, -, store⟩ |
      ⟨verdict, rfl, -, -, -, store⟩
    · exact congrArg Store.records store
    · exact (congrArg Store.records store).trans (Store.records_recorded _ _ _ _)
    · exact (congrArg Store.records store).trans (Store.records_recorded _ _ _ _)
  | concluding text =>
    simp only [advance]
    split
    next => rfl
    next => rfl
  | finished result => rfl

theorem records_step (a : Audit) (w : World σ) :
    (step c config a w).2.store.records = w.store.records :=
  records_advance c config a { w with notices := [] }

theorem Moves.verdict {config : AuditConfig} {r : Resolver} {a b : Audit} {made : List Exchange}
    (move : Moves r config a made b) {outcome : AuditOutcome}
    (ended : b.result? = some (.ok outcome)) : b.session.verdict = some outcome.verdict := by
  have phase := phase_of_result? ended
  cases move with
  | conclude s n text verdict decided =>
    cases phase
    exact decided
  | _ => cases phase

end Audit

namespace Job

def entry (j : Job) : String × PathRecord := (j.key, j.record)

structure Sound (j : Job) : Prop where
  restorable : j.audit.session.Restorable j.record
  decided : ∀ outcome, j.audit.result? = some (.ok outcome) →
    j.audit.session.verdict = some outcome.verdict

theorem sound_start (config : BatchConfig) (key : String) {record : PathRecord}
    (sorted : record.Sorted) : (start config key record).Sound := by
  refine ⟨.ofRecord sorted config.outputDir, fun outcome ended => ?_⟩
  rw [Batch.active_start] at ended
  contradiction

theorem Sound.step {σ : Type} {j : Job} (sound : j.Sound) (c : Collaborators σ)
    (config : AuditConfig) (w : World σ) (active : j.audit.result? = none) :
    Sound { j with audit := (Audit.step c config j.audit w).1 } := by
  obtain ⟨made, move, -⟩ := Audit.step_moves c config j.audit w active
  exact ⟨Audit.step_restorable c config sound.restorable w, fun outcome ended => move.verdict ended⟩

end Job

namespace Batch
variable {σ : Type} {met : Collaborators σ → Prop} {stops : Prop} {config : BatchConfig}
  {b after : Batch} {w seen : World σ} {finished now : List (Job × JobResult)}

def concluded {α : Type} (results : List (α × JobResult)) : List (α × AuditOutcome) :=
  results.filterMap fun (a, result) => result.toOption.map (a, ·)

def keys (finished : List (Job × JobResult)) : List String :=
  (concluded finished).map (·.1.key)

section Results
variable {α : Type}

theorem concluded_append (front back : List (α × JobResult)) :
    concluded (front ++ back) = concluded front ++ concluded back :=
  List.filterMap_append

theorem mem_concluded (results : List (α × JobResult)) (a : α) (outcome : AuditOutcome) :
    (a, outcome) ∈ concluded results ↔ (a, .ok outcome) ∈ results := by
  rw [concluded, List.mem_filterMap]
  constructor
  · rintro ⟨⟨x, result⟩, listed, shown⟩
    cases result with
    | error e => contradiction
    | ok found =>
      cases shown
      exact listed
  · intro listed
    exact ⟨_, listed, rfl⟩

theorem keys_sublist (finished : List (Job × JobResult)) :
    (keys finished).Sublist (finished.map (·.1.key)) := by
  induction finished with
  | nil => exact .slnil
  | cons first finished ih =>
    obtain ⟨j, result⟩ := first
    cases result with
    | error e => exact ih.cons _
    | ok outcome => exact ih.cons_cons _

end Results

/-- The summary counts the results that were ended, less those still to be counted. -/
structure Counted (finished : List (Job × JobResult)) (b : Batch) : Prop where
  concluded : b.summary.concluded + (concluded b.ended).length = (concluded finished).length
  vulnerable : b.summary.vulnerable +
      (Batch.concluded b.ended).countP (·.2.verdict.isVulnerable) =
    (Batch.concluded finished).countP (·.2.verdict.isVulnerable)
  all : b.summary.concluded + b.summary.failed + b.ended.length = finished.length

theorem Happens.counted (event : Happens met stops config b w now after seen)
    (counted : Counted finished b) : Counted (finished ++ now) after := by
  obtain ⟨outcomes, flags, all⟩ := counted
  cases event with
  | finish j rest result picked ended =>
    generalize (j.settle result w).1 = told
    refine ⟨?_, ?_, ?_⟩
    · rw [concluded_append, concluded_append, List.length_append, List.length_append,
        ← Nat.add_assoc, outcomes]
      cases told <;> rfl
    · rw [concluded_append, concluded_append, List.countP_append, List.countP_append,
        ← Nat.add_assoc, flags]
      cases told <;> rfl
    · rw [List.length_append, List.length_append, ← Nat.add_assoc, all]
      rfl
  | count key result front back through listed =>
    rw [listed, concluded_append, List.length_append] at outcomes
    rw [listed, concluded_append, List.countP_append] at flags
    rw [listed, List.length_append, List.length_cons] at all
    rw [List.append_nil]
    cases result with
    | error e =>
      refine ⟨?_, ?_, ?_⟩
      · rwa [concluded_append, List.length_append]
      · rwa [concluded_append, List.countP_append]
      · rw [List.length_append]
        change b.summary.concluded + (b.summary.failed + 1) + (front.length + back.length) = _
        omega
    | ok outcome =>
      have one : concluded ((key, .ok outcome) :: back) = (key, outcome) :: concluded back := rfl
      rw [one, List.length_cons] at outcomes
      rw [one, List.countP_cons] at flags
      dsimp only at flags
      refine ⟨?_, ?_, ?_⟩
      · rw [concluded_append, List.length_append]
        change b.summary.concluded + 1 + ((concluded front).length + (concluded back).length) = _
        omega
      · rw [concluded_append, List.countP_append]
        change b.summary.vulnerable + (if outcome.verdict.isVulnerable = true then 1 else 0) + _ = _
        omega
      · rw [List.length_append]
        change b.summary.concluded + 1 + b.summary.failed + (front.length + back.length) = _
        omega
  | _ =>
    rw [List.append_nil]
    exact ⟨outcomes, flags, all⟩

/-- Each of the records is waiting, running, ended or skipped; while some wait, none is skipped. -/
def Shared (left : List (String × PathRecord)) (finished : List (Job × JobResult)) (b : Batch) :
    Prop :=
  ∃ skipped, skipped.length = b.summary.skipped ∧ (b.waiting ≠ [] → skipped = []) ∧
    (b.waiting ++ (b.running.map Job.entry ++
      (finished.map (fun x : Job × JobResult => x.1.entry) ++ skipped))).Perm left

private theorem perm_moved {α : Type} (a b c : List α) (x : α) :
    (a ++ (b ++ [x] ++ c)).Perm (x :: (a ++ (b ++ c))) := by
  rw [List.append_assoc b, List.singleton_append]
  exact (List.perm_middle.append_left a).trans List.perm_middle

theorem Happens.shared {left : List (String × PathRecord)}
    (event : Happens met stops config b w now after seen) (shared : Shared left finished b) :
    Shared left (finished ++ now) after := by
  obtain ⟨skipped, many, none, all⟩ := shared
  cases event with
  | start key record rest next room =>
    rw [next] at none all
    refine ⟨skipped, many, fun _ => none (List.cons_ne_nil _ _), ?_⟩
    rw [List.append_nil, List.map_append]
    exact (perm_moved rest _ _ (key, record)).trans all
  | cancel may waits =>
    rw [none waits, List.append_nil] at all
    refine ⟨b.waiting, rfl, absurd rfl, ?_⟩
    rw [List.append_nil]
    have turned := List.perm_append_comm.trans all
    rwa [List.append_assoc] at turned
  | progress c known j rest picked active =>
    refine ⟨skipped, many, none, ?_⟩
    rw [List.append_nil]
    exact (((picked.map Job.entry).symm.append_right _).append_left _).trans all
  | finish j rest result picked ended =>
    refine ⟨skipped, many, none, ?_⟩
    have shifted : (rest.map Job.entry ++
        ((finished ++ [(j, (j.settle result w).1)]).map (·.1.entry) ++ skipped)).Perm
        (b.running.map Job.entry ++
          (finished.map (fun x : Job × JobResult => x.1.entry) ++ skipped)) := by
      rw [List.map_append]
      exact (perm_moved _ _ _ j.entry).trans ((picked.map Job.entry).symm.append_right _)
    exact (shifted.append_left _).trans all
  | count key result front back through listed =>
    rw [List.append_nil]
    refine ⟨skipped, ?_, none, all⟩
    cases result with
    | error e => exact many
    | ok outcome => exact many
  | meanwhile seen running inTurn order same =>
    refine ⟨skipped, many, none, ?_⟩
    rw [List.append_nil]
    exact (((order.map Job.entry).append_right _).append_left _).trans all

theorem Shared.nodup {left : List (String × PathRecord)} (shared : Shared left finished b)
    (distinct : (left.map (·.1)).Nodup) :
    (b.running.map (·.key) ++ finished.map (·.1.key)).Nodup := by
  obtain ⟨skipped, -, -, all⟩ := shared
  have apart := (all.map Prod.fst).nodup_iff.mpr distinct
  rw [List.map_append, List.map_append, List.map_append, List.map_map, List.map_map] at apart
  refine apart.sublist (List.Sublist.trans ?_ (List.sublist_append_right _ _))
  exact (List.sublist_append_left _ _).append_left _

theorem Shared.absent {left : List (String × PathRecord)} (shared : Shared left finished b)
    (distinct : (left.map (·.1)).Nodup) {j : Job} (member : j ∈ b.running) :
    j.key ∉ keys finished := by
  intro listed
  have ended := (keys_sublist finished).mem listed
  have apart := (List.nodup_append.mp (shared.nodup distinct)).2.2
  exact apart _ (List.mem_map_of_mem member) _ ended rfl

theorem Happens.sound (event : Happens met stops config b w now after seen)
    (waiting : ∀ entry ∈ b.waiting, entry.2.Sorted) (running : ∀ j ∈ b.running, j.Sound) :
    (∀ entry ∈ after.waiting, entry.2.Sorted) ∧ ∀ j ∈ after.running, j.Sound := by
  cases event with
  | start key record rest next room =>
    rw [next] at waiting
    obtain ⟨first, others⟩ := List.forall_mem_cons.mp waiting
    refine ⟨others, List.forall_mem_append.mpr ⟨running, ?_⟩⟩
    exact List.forall_mem_singleton.mpr (Job.sound_start config key first)
  | cancel may waits => exact ⟨nofun, running⟩
  | progress c known j rest picked active =>
    have all : ∀ other ∈ j :: rest, other.Sound := fun other member =>
      running other (picked.mem_iff.mpr member)
    obtain ⟨first, others⟩ := List.forall_mem_cons.mp all
    exact ⟨waiting, List.forall_mem_cons.mpr ⟨first.step c config.audit w active, others⟩⟩
  | finish j rest result picked ended =>
    exact ⟨waiting, fun other member =>
      running other (picked.mem_iff.mpr (List.mem_cons_of_mem _ member))⟩
  | count key result front back through listed => exact ⟨waiting, running⟩
  | meanwhile seen running' inTurn order same =>
    exact ⟨waiting, fun j member => running j (order.mem_iff.mp member)⟩

/-- The job added one revision to its key, with the conclusion that its session came to. -/
def Wrote (before s : Store) (j : Job) (outcome : AuditOutcome) : Prop :=
  (∃ row, s.revisionsOf j.key = before.revisionsOf j.key ++ [row]) ∧
    j.audit.session.verdict = some outcome.verdict ∧
    ∃ kept, s.get j.key = .ok (some kept) ∧ kept.conclusion = some outcome.verdict.isVulnerable

structure Kept (left : List (String × PathRecord)) (before : Store)
    (finished : List (Job × JobResult)) (s : Store) : Prop where
  regular : s.Regular
  pending : s.pending = .ok (left.filter fun entry => entry.1 ∉ keys finished)
  others : ∀ key, key ∉ keys finished → s.revisionsOf key = before.revisionsOf key
  written : ∀ j outcome, (j, outcome) ∈ concluded finished → Wrote before s j outcome

section Records
variable {left : List (String × PathRecord)} {before s : Store}

theorem Wrote.of_revisionsOf {other : Store} {j : Job} {outcome : AuditOutcome}
    (wrote : Wrote before s j outcome) (same : other.revisionsOf j.key = s.revisionsOf j.key) :
    Wrote before other j outcome := by
  obtain ⟨grown, decided, kept, read, conclusion⟩ := wrote
  rw [← Store.get_of_revisionsOf same] at read
  exact ⟨same ▸ grown, decided, kept, read, conclusion⟩

theorem Kept.of_records (kept : Kept left before finished s) {other : Store}
    (same : other.records = s.records) : Kept left before finished other where
  regular := kept.regular.of_records same
  pending := (Store.pending_of_records same).trans kept.pending
  others key absent := (Store.revisionsOf_of_records same key).trans (kept.others key absent)
  written j outcome listed :=
    (kept.written j outcome listed).of_revisionsOf (Store.revisionsOf_of_records same j.key)

theorem Kept.failed (kept : Kept left before finished s) (j : Job) (e : AuditError) :
    Kept left before (finished ++ [(j, .error e)]) s := by
  have same : concluded (finished ++ [(j, .error e)]) = concluded finished := by
    rw [concluded_append]
    exact List.append_nil _
  obtain ⟨regular, pending, others, written⟩ := kept
  rw [keys, ← same] at pending others
  rw [← same] at written
  exact ⟨regular, pending, others, written⟩

theorem Kept.saved (kept : Kept left before finished s) {j : Job} {outcome : AuditOutcome}
    (absent : j.key ∉ keys finished) (restorable : j.audit.session.Restorable j.record)
    (decided : j.audit.session.verdict = some outcome.verdict) {after : Store} {n : Int}
    (saved : s.save j.key (j.audit.session.applyTo j.record) = .ok (after, n)) :
    Kept left before (finished ++ [(j, .ok outcome)]) after := by
  have conclusion : (j.audit.session.applyTo j.record).conclusion =
      some outcome.verdict.isVulnerable := by
    rw [Session.applyTo, decided]
  have isConcluded : (j.audit.session.applyTo j.record).isConcluded = true := by
    rw [PathRecord.isConcluded, conclusion]
    rfl
  have more : concluded (finished ++ [(j, .ok outcome)]) = concluded finished ++ [(j, outcome)] :=
    concluded_append _ _
  have names : keys (finished ++ [(j, .ok outcome)]) = keys finished ++ [j.key] := by
    rw [keys, more, List.map_append]
    rfl
  refine ⟨kept.regular.save saved, ?_, ?_, ?_⟩
  · rw [kept.regular.pending_save saved isConcluded kept.pending, List.filter_filter, names]
    refine congrArg Except.ok (List.filter_congr fun entry _ => ?_)
    simp [and_comm]
  · intro key new
    rw [names, List.mem_append, List.mem_singleton, not_or] at new
    rw [kept.regular.revisionsOf_save_of_ne saved new.2, kept.others key new.1]
  · intro other found listed
    rw [more, List.mem_append, List.mem_singleton] at listed
    rcases listed with early | same
    · have apart : other.key ≠ j.key := fun same =>
        absent (same ▸ List.mem_map_of_mem early)
      exact (kept.written other found early).of_revisionsOf
        (kept.regular.revisionsOf_save_of_ne saved apart)
    · cases same
      refine ⟨⟨.ofRecord j.key n (j.audit.session.applyTo j.record), ?_⟩, decided, _,
        kept.regular.get_save saved restorable.sorted_applyTo, conclusion⟩
      rw [kept.regular.revisionsOf_save saved, kept.others _ absent]

theorem Happens.kept (event : Happens met stops config b w now after seen)
    (distinct : (left.map (·.1)).Nodup) (shared : Shared left finished b)
    (sound : ∀ j ∈ b.running, j.Sound) (kept : Kept left before finished w.store) :
    Kept left before (finished ++ now) seen.store := by
  cases event with
  | progress c known j rest picked active =>
    rw [List.append_nil]
    exact kept.of_records (Audit.records_step c config.audit j.audit w)
  | meanwhile seen running inTurn order same =>
    rw [List.append_nil]
    exact kept.of_records same
  | finish j rest result picked ended =>
    have member : j ∈ b.running := picked.mem_iff.mpr List.mem_cons_self
    cases result with
    | error e => exact kept.failed j e
    | ok outcome =>
      unfold Job.settle
      dsimp only
      split
      next store n saved =>
        exact kept.saved (shared.absent distinct member) (sound j member).restorable
          ((sound j member).decided outcome ended) saved
      next e refused => exact kept.failed j _
  | _ =>
    rw [List.append_nil]
    exact kept

end Records

structure Accounts (left : List (String × PathRecord)) (before : Store)
    (finished : List (Job × JobResult)) (b : Batch) (s : Store) : Prop where
  counted : Counted finished b
  shared : Shared left finished b
  waiting : ∀ entry ∈ b.waiting, entry.2.Sorted
  running : ∀ j ∈ b.running, j.Sound
  kept : Kept left before finished s

section Schedules
variable {left : List (String × PathRecord)}

theorem Accounts.opening (regular : w.store.Regular) (listed : w.store.pending = .ok left) :
    Accounts left w.store [] { waiting := left } w.store where
  counted := ⟨rfl, rfl, rfl⟩
  shared := ⟨[], rfl, fun _ => rfl, by simp⟩
  waiting := Store.sorted_of_pending listed
  running := List.forall_mem_nil _
  kept := ⟨regular, by simpa [keys, concluded] using listed, fun _ _ => rfl,
    fun _ _ none => absurd none List.not_mem_nil⟩

theorem Happens.accounts {before : Store} (event : Happens met stops config b w now after seen)
    (distinct : (left.map (·.1)).Nodup) (accounts : Accounts left before finished b w.store) :
    Accounts left before (finished ++ now) after seen.store where
  counted := event.counted accounts.counted
  shared := event.shared accounts.shared
  waiting := (event.sound accounts.waiting accounts.running).1
  running := (event.sound accounts.waiting accounts.running).2
  kept := event.kept distinct accounts.shared accounts.running accounts.kept

theorem ScheduleWith.accounts {before : World σ} (regular : before.store.Regular)
    (listed : before.store.pending = .ok left)
    (schedule : ScheduleWith met stops config { waiting := left } before finished b w) :
    Accounts left before.store finished b w.store := by
  induction schedule with
  | nothing => exact .opening regular listed
  | next earlier event ih => exact event.accounts (regular.nodup_pending listed) ih

end Schedules

/-- Whatever schedule a batch follows to its end, its summary accounts for each of the records that
were pending; those that were concluded have one revision more, with the conclusion of their
session, and are no longer pending, and all other keys have the revisions they had. The dispatcher
follows such a schedule, whoever the collaborators are and whenever it is cancelled. -/
theorem batch_accounts_for_all (config : BatchConfig) (w : World σ) (regular : w.store.Regular)
    (left : List (String × PathRecord)) (listed : w.store.pending = .ok left) :
    (∀ finished b (after : World σ), Schedule config { waiting := left } w finished b after →
      b.Through →
      b.summary.concluded + b.summary.failed + b.summary.skipped = left.length ∧
      ∃ done : List (Job × AuditOutcome),
        (∀ j outcome, (j, outcome) ∈ done ↔ (j, .ok outcome) ∈ finished) ∧
        done.length = b.summary.concluded ∧ (done.map (·.1.key)).Nodup ∧
        (∀ j outcome, (j, outcome) ∈ done → (j.key, j.record) ∈ left ∧
          (∃ row, after.store.revisionsOf j.key = w.store.revisionsOf j.key ++ [row]) ∧
          j.audit.session.verdict = some outcome.verdict ∧
          ∃ kept, after.store.get j.key = .ok (some kept) ∧
            kept.conclusion = some outcome.verdict.isVulnerable) ∧
        b.summary.vulnerable = done.countP (·.2.verdict.isVulnerable) ∧
        (∀ key, key ∉ done.map (·.1.key) →
          after.store.revisionsOf key = w.store.revisionsOf key) ∧
        after.store.pending = .ok (left.filter fun entry => entry.1 ∉ done.map (·.1.key))) ∧
    ∀ (c : Collaborators σ) (cancelled : σ → Bool), ∃ finished b after,
      Schedule config { waiting := left } w finished b after ∧ b.Through ∧
        runPending c config cancelled w = (.ok b.summary, after) := by
  constructor
  · rintro finished b after schedule ⟨waits, runs, ends⟩
    obtain ⟨counted, shared, -, -, kept⟩ := schedule.accounts regular listed
    have once := shared.nodup (regular.nodup_pending listed)
    obtain ⟨outcomes, flags, total⟩ := counted
    obtain ⟨skipped, many, -, all⟩ := shared
    have none : concluded b.ended = [] := by rw [ends]; rfl
    rw [none, List.length_nil, Nat.add_zero] at outcomes
    rw [none, List.countP_nil, Nat.add_zero] at flags
    rw [ends, List.length_nil, Nat.add_zero] at total
    rw [waits, runs, List.nil_append, List.map_nil, List.nil_append] at all
    refine ⟨?_, concluded finished, mem_concluded finished, outcomes.symm, ?_, ?_, flags,
      kept.others, kept.pending⟩
    · have lengths := all.length_eq
      rw [List.length_append, List.length_map] at lengths
      omega
    · exact (once.sublist (List.sublist_append_right _ _)).sublist (keys_sublist finished)
    · intro j outcome member
      refine ⟨all.mem_iff.mp (List.mem_append_left _ ?_), kept.written j outcome member⟩
      exact List.mem_map.mpr ⟨_, (mem_concluded _ _ _).mp member, rfl⟩
  · intro c cancelled
    exact runPending_follows _ True config listed trivial fun _ _ => trivial

def agreeing : Collaborators Unit where
  resolver := ({} : CodeBase).resolver
  model _ := ""
  ask role _ _ outside :=
    (.ok [.done (.ofText (if role = .verifier then Audit.acceptance else "safe")) .endTurn],
      outside)
  draw _ _ _ outside := (.error (.graphviz "no drawings"), outside)

def together : BatchConfig where
  audit := Audit.brief
  outputDir := "out"
  maxConcurrent := 2

private def judged : Session :=
  { Session.ofRecord evaluating "out" with history := [.assistantText "safe"] }

private def verified : Session := { judged with verdict := some ⟨false, "safe", "ok"⟩ }

private theorem step_agreed (w : World Unit) :
    (Audit.step agreeing Audit.brief ⟨judged, 1, .verifying "safe" (Reply.remark "safe")⟩ w).1 =
      ⟨verified, 1, .concluding "safe"⟩ := by
  have text : (AssistantMessage.ofText Audit.acceptance).text = Audit.acceptance := rfl
  simp only [Audit.step_fst, Audit.advance, Audit.judge, Gate.verify, World.ask, agreeing, if_true,
    Reply.complete, StreamEvent.settle, Except.map, text, Audit.ofReply_acceptance]
  rfl

section Example
variable {before : World Unit} {waiting rest : List (String × PathRecord)}

/-- The schedule has come to a job of the record under this key, in this state. -/
private def Reached (before : World Unit) (waiting rest : List (String × PathRecord)) (key : String)
    (a : Audit) : Prop :=
  ∃ w : World Unit, w.store.records = before.store.records ∧
    Schedule together { waiting } before [] { waiting := rest, running := [⟨key, evaluating, a⟩] } w

private theorem Reached.step {key : String} {a next : Audit}
    (reached : Reached before waiting rest key a) (active : a.result? = none)
    (stepped : ∀ w, (Audit.step agreeing Audit.brief a w).1 = next) :
    Reached before waiting rest key next := by
  obtain ⟨w, same, earlier⟩ := reached
  have later := earlier.onward (.progress agreeing trivial _ [] .rfl active)
  dsimp only at later
  rw [show together.audit = Audit.brief from rfl, stepped w] at later
  exact ⟨_, (Audit.records_step agreeing Audit.brief a w).trans same, later⟩

private theorem reached_verdict (next : waiting = ("a", evaluating) :: rest) :
    Reached before waiting rest "a"
      ⟨verified, 1, .finished (.ok ⟨⟨false, "safe", "ok"⟩, "safe", 1⟩)⟩ := by
  have started : Reached before waiting rest "a" (Job.start together "a" evaluating).audit :=
    ⟨before, rfl, ScheduleWith.nothing.onward (.start "a" evaluating rest next Nat.zero_lt_two)⟩
  have drawn : Reached before waiting rest "a" ⟨Session.ofRecord evaluating "out", 0, .reasoning⟩ :=
    started.step rfl fun _ => rfl
  have reasoned : Reached before waiting rest "a" ⟨judged, 1, .proposing "safe"⟩ :=
    drawn.step rfl fun _ => rfl
  have presented : Reached before waiting rest "a"
      ⟨judged, 1, .verifying "safe" (Reply.remark "safe")⟩ := reasoned.step rfl fun _ => rfl
  exact (presented.step rfl step_agreed).step rfl fun _ => rfl

end Example

theorem pending_pair : (Store.taking [.one "a" evaluating, .one "b" evaluating]).pending =
    .ok [("a", evaluating), ("b", evaluating)] := by
  let l : Ledger := [("b", evaluating), ("a", evaluating)]
  have plain : evaluating.Sorted := .nil
  have sorted : l.Sorted := by simpa [l, Ledger.Sorted] using plain
  have holds : (Store.taking [.one "a" evaluating, .one "b" evaluating]).Holds l := holds_taking _
  have order : l.pending = [("a", evaluating), ("b", evaluating)] := by
    refine List.Perm.eq_of_pairwise ?_ l.pairwise_pending ?_ (List.mergeSort_perm _ _)
    · intro a b _ _ early late
      exact absurd early (Ledger.precedes_asymm late)
    · exact List.pairwise_pair.mpr (Or.inr ⟨rfl, by decide⟩)
  rw [holds.pending sorted, order]

/-- Of two pending records one is concluded; the batch is cancelled before the other is started. -/
theorem batch_accounts_for_all_cancelled :
    let s := Store.taking [.one "a" evaluating, .one "b" evaluating]
    s.pending = .ok [("a", evaluating), ("b", evaluating)] ∧
    ∃ finished b after, Schedule together { waiting := [("a", evaluating), ("b", evaluating)] }
        { outside := (), store := s } finished b after ∧
      b.Through ∧ b.summary = ⟨1, 0, 0, 1⟩ ∧
      (∃ row, after.store.revisionsOf "a" = s.revisionsOf "a" ++ [row]) ∧
      after.store.revisionsOf "b" = s.revisionsOf "b" ∧
      after.store.pending = .ok [("b", evaluating)] := by
  intro s
  let l : Ledger := [("b", evaluating), ("a", evaluating)]
  have holds : s.Holds l := holds_taking _
  have listed : s.pending = .ok [("a", evaluating), ("b", evaluating)] := pending_pair
  let outcome : AuditOutcome := ⟨⟨false, "safe", "ok"⟩, "safe", 1⟩
  let j : Job := ⟨"a", evaluating, ⟨verified, 1, .finished (.ok outcome)⟩⟩
  obtain ⟨w, same, earlier⟩ : Reached { outside := (), store := s }
    [("a", evaluating), ("b", evaluating)] [("b", evaluating)] "a" j.audit := reached_verdict rfl
  have held : w.store.Holds l := same.trans holds
  have room : l.revisions "a" + 1 < 2 ^ 63 := by decide
  obtain ⟨stored, saved, -⟩ := held.save room (verified.applyTo evaluating)
  have settled : j.settle (.ok outcome) w = (.ok outcome, { w with store := stored }) := by
    unfold Job.settle
    dsimp only [j]
    rw [saved]
  have ended := earlier.next (.finish j [] (.ok outcome) .rfl rfl)
  rw [settled] at ended
  have cancelled := ended.onward (.cancel trivial (List.cons_ne_nil _ _))
  have counted := cancelled.onward (.count "a" (.ok outcome) [] [] rfl rfl)
  obtain ⟨-, done, known, many, -, wrote, -, others, pending⟩ :=
    (batch_accounts_for_all together _ holds.regular _ listed).1 _ _ _ counted ⟨rfl, rfl, rfl⟩
  obtain ⟨x, rfl⟩ := List.length_eq_one_iff.mp many
  have member : (j, outcome) ∈ [x] := (known j outcome).mpr (List.mem_singleton_self _)
  obtain rfl := List.mem_singleton.mp member
  refine ⟨listed, _, _, _, counted, ⟨rfl, rfl, rfl⟩, rfl, (wrote j outcome member).2.1, ?_, ?_⟩
  · exact others "b" (by decide)
  · exact pending

end Batch

end PathAudit
