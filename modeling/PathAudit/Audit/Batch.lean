import PathAudit.Audit.Loop
import PathAudit.Store.Records

/-! Several audits at a time. The sessions take turns, a turn lasting until a drawing is made; at
the end of a turn the dispatcher starts waiting records where there is room, unless the batch is
cancelled, in which case those that wait are skipped and those that run are finished. -/
namespace PathAudit

structure BatchSummary where
  concluded : Nat := 0
  vulnerable : Nat := 0
  /-- Sessions without a verdict; their records stay pending. -/
  failed : Nat := 0
  /-- Records not started because the batch was cancelled. -/
  skipped : Nat := 0
  deriving DecidableEq, Repr, Inhabited

structure Job where
  key : String
  record : PathRecord
  audit : Audit

structure BatchConfig where
  audit : AuditConfig := {}
  outputDir : String
  maxConcurrent : Nat := 1

abbrev JobResult := Except AuditError AuditOutcome

structure Batch where
  waiting : List (String × PathRecord)
  running : List Job := []
  ended : List (String × JobResult) := []
  summary : BatchSummary := {}
  /-- Whether the first running job is in the middle of its turn. -/
  inTurn : Bool := false

namespace Job

def start (config : BatchConfig) (key : String) (record : PathRecord) : Job :=
  ⟨key, record, .start config.audit (.ofRecord record config.outputDir)⟩

variable {σ : Type}

/-- Keeps the result of a finished audit: a verdict is written back and saved. -/
def settle (j : Job) (result : JobResult) (w : World σ) : JobResult × World σ :=
  match result with
  | .error e => (.error e, w)
  | .ok outcome =>
    match w.store.save j.key (j.audit.session.applyTo j.record) with
    | .ok (store, _) => (.ok outcome, { w with store })
    | .error e => (.error (.store e), w)

def run (c : Collaborators σ) (config : BatchConfig) (key : String) (record : PathRecord)
    (w : World σ) : JobResult × World σ :=
  let j := start config key record
  let w := w.tell (Session.openingNotices record)
  let (result, session, w) := Audit.run c config.audit j.audit w
  settle { j with audit := { j.audit with session } } result w

end Job

namespace BatchSummary

def count (s : BatchSummary) : JobResult → BatchSummary
  | .ok outcome =>
    { s with
      concluded := s.concluded + 1
      vulnerable := s.vulnerable + if outcome.verdict.isVulnerable then 1 else 0 }
  | .error _ => { s with failed := s.failed + 1 }

end BatchSummary

namespace Batch

def target : String := "aegis_engine::batch"

variable {σ : Type}

def failureNotice? : String × JobResult → Option Notice
  | (_, .ok _) => none
  | (key, .error e) =>
    some ((Notice.error target "audit session failed, record left pending"
      [Notice.shown "error" e.message]).under key)

def report (b : Batch) (w : World σ) : Batch × World σ :=
  ({ b with
      summary := b.ended.foldl (fun s (_, result) => s.count result) b.summary
      ended := [] },
    w.tell (b.ended.filterMap failureNotice?))

def skip (b : Batch) (w : World σ) : Batch × World σ :=
  ({ b with waiting := [], summary := { b.summary with skipped := b.waiting.length } },
    w.tell [.warn target "batch cancelled" [("skipped", .nat b.waiting.length)]])

/-- Starts waiting records while there is room, or skips them all when the batch is cancelled. -/
def launch (config : BatchConfig) (cancelled : Bool) :
    List (String × PathRecord) → Batch → World σ → Batch × World σ
  | [], b, w => ({ b with waiting := [] }, w)
  | (key, record) :: rest, b, w =>
    if cancelled then skip { b with waiting := (key, record) :: rest } w
    else if b.running.length < max config.maxConcurrent 1 then
      let b := { b with running := b.running ++ [.start config key record] }
      launch config cancelled rest b (w.tell (Session.openingNotices record))
    else ({ b with waiting := (key, record) :: rest }, w)

/-- The dispatcher's turn: results are counted once nothing waits any more. -/
def look (config : BatchConfig) (cancelled : Bool) (b : Batch) (w : World σ) : Batch × World σ :=
  let (b, w) := launch config cancelled b.waiting b w
  if b.waiting.isEmpty then report b w else (b, w)

def stepJob (c : Collaborators σ) (config : BatchConfig) (b : Batch) (j : Job) (rest : List Job)
    (w : World σ) : Batch × World σ :=
  match Audit.step c config.audit j.audit w with
  | (audit, after) =>
    let j := { j with audit }
    match audit.result? with
    | some result =>
      let (result, after) := j.settle result after
      ({ b with running := rest, ended := b.ended ++ [(j.key, result)], inTurn := false }, after)
    | none =>
      if after.drawn = w.drawn then ({ b with running := j :: rest, inTurn := true }, after)
      else ({ b with running := rest ++ [j], inTurn := false }, after)

def questionsLeft (config : BatchConfig) (b : Batch) : Nat :=
  total (fun j => (j.audit.remaining config.audit).1) b.running

def workLeft (config : BatchConfig) (b : Batch) : Nat :=
  total (fun j => (j.audit.remaining config.audit).2) b.running

def before (config : BatchConfig) (a b : Batch) : Prop :=
  Prod.Lex (· < ·) (Prod.Lex (· < ·) (· < ·))
    (a.waiting.length, a.questionsLeft config, a.workLeft config)
    (b.waiting.length, b.questionsLeft config, b.workLeft config)

theorem waiting_launch (config : BatchConfig) (cancelled : Bool)
    (waiting : List (String × PathRecord)) (b : Batch) (w : World σ) :
    (launch config cancelled waiting b w).1.waiting.length < waiting.length ∨
      ((launch config cancelled waiting b w).1.waiting = waiting ∧
        (launch config cancelled waiting b w).1.running = b.running) := by
  induction waiting generalizing b w with
  | nil => exact .inr ⟨rfl, rfl⟩
  | cons entry rest ih =>
    obtain ⟨key, record⟩ := entry
    simp only [launch]
    split
    · exact .inl (by simp [skip])
    · split
      · rcases ih { b with running := b.running ++ [.start config key record] }
          (w.tell (Session.openingNotices record)) with shorter | same
        · exact .inl (by simp only [List.length_cons]; omega)
        · exact .inl (by simp [same.1])
      · exact .inr ⟨rfl, rfl⟩

theorem waiting_look (config : BatchConfig) (cancelled : Bool) (b : Batch) (w : World σ) :
    (look config cancelled b w).1.waiting.length < b.waiting.length ∨
      ((look config cancelled b w).1.waiting = b.waiting ∧
        (look config cancelled b w).1.running = b.running) := by
  have launched := waiting_launch config cancelled b.waiting b w
  simp only [look]
  split
  · simpa [report] using launched
  · exact launched

theorem before_stepJob (c : Collaborators σ) (config : BatchConfig) (b : Batch) (j : Job)
    (rest : List Job) (w : World σ) (jobs : b.running = j :: rest)
    (active : j.audit.result? = none) :
    before config (stepJob c config b j rest w).1 b := by
  have lower := Audit.remaining_advance c config.audit j.audit { w with notices := [] } active
  rw [← Audit.step_fst] at lower
  generalize stepped : Audit.step c config.audit j.audit w = next at lower
  obtain ⟨audit, after⟩ := next
  have settled : ∀ moved : Batch, moved.waiting = b.waiting →
      (moved.questionsLeft config = (audit.remaining config.audit).1 +
          total (fun j => (j.audit.remaining config.audit).1) rest ∧
        moved.workLeft config = (audit.remaining config.audit).2 +
          total (fun j => (j.audit.remaining config.audit).2) rest) →
      before config moved b := by
    intro moved same sums
    rw [before, same, sums.1, sums.2]
    simp only [questionsLeft, workLeft, jobs, total_cons]
    refine .right _ ?_
    revert lower
    generalize audit.remaining config.audit = now
    generalize j.audit.remaining config.audit = old
    intro lower
    cases lower with
    | left _ _ fewer => exact .left _ _ (by omega)
    | right _ fewer => exact .right _ (by omega)
  simp only [stepJob, stepped]
  split
  · next result ended =>
    refine settled _ rfl ?_
    have none_left : audit.remaining config.audit = (0, 0) := by
      simp only [Audit.result?] at ended
      simp only [Audit.remaining]
      split at ended <;> simp_all
    simp [questionsLeft, workLeft, none_left]
  · split
    · exact settled _ rfl ⟨by simp [questionsLeft], by simp [workLeft]⟩
    · exact settled _ rfl
        ⟨by simp [questionsLeft, Nat.add_comm], by simp [workLeft, Nat.add_comm]⟩

/-- The dispatcher looks around between the turns, not within one. -/
def ready (config : BatchConfig) (cancelled : σ → Bool) (b : Batch) (w : World σ) :
    Batch × World σ :=
  if b.inTurn then (b, w) else look config (cancelled w.outside) b w

theorem waiting_ready (config : BatchConfig) (cancelled : σ → Bool) (b : Batch) (w : World σ) :
    (ready config cancelled b w).1.waiting.length < b.waiting.length ∨
      ((ready config cancelled b w).1.waiting = b.waiting ∧
        (ready config cancelled b w).1.running = b.running) := by
  simp only [ready]
  split
  · exact .inr ⟨rfl, rfl⟩
  · exact waiting_look config _ b w

theorem before_of_ready {config : BatchConfig} {now next b : Batch}
    (through : now.waiting.length < b.waiting.length ∨
      (now.waiting = b.waiting ∧ now.running = b.running))
    (lower : before config next now) : before config next b := by
  rcases through with fewer | same
  · generalize held : (next.waiting.length, questionsLeft config next, workLeft config next) = left
      at lower ⊢
    simp only [before, held] at lower ⊢
    cases lower with
    | left _ _ less => exact .left _ _ (by omega)
    | right _ _ => exact .left _ _ fewer
  · simpa only [before, questionsLeft, workLeft, same.1, same.2] using lower

def run (c : Collaborators σ) (config : BatchConfig) (cancelled : σ → Bool) (b : Batch)
    (w : World σ) : BatchSummary × World σ :=
  match _looked : ready config cancelled b w with
  | (now, seen) =>
    match _jobs : now.running with
    | [] => (now.summary, seen)
    | j :: rest =>
      if _active : j.audit.result? = none then
        match _stepped : stepJob c config now j rest seen with
        | (next, after) => run c config cancelled next after
      else (now.summary, seen)
termination_by (b.waiting.length, b.questionsLeft config, b.workLeft config)
decreasing_by
  have through := waiting_ready config cancelled b w
  have lower := before_stepJob c config now j rest seen _jobs _active
  rw [_looked] at through
  rw [_stepped] at lower
  exact before_of_ready through lower

/-- Audits every pending record, those with fewer edges first. -/
def runPending (c : Collaborators σ) (config : BatchConfig) (cancelled : σ → Bool) (w : World σ) :
    Except AuditError BatchSummary × World σ :=
  match w.store.pending with
  | .error e => (.error (.store e), w)
  | .ok waiting =>
    let (summary, w) := run c config cancelled { waiting } w
    (.ok summary, w)

/-- Audits the record of one key, concluded or not. -/
def runOne (c : Collaborators σ) (config : BatchConfig) (key : String) (w : World σ) :
    JobResult × World σ :=
  match w.store.get key with
  | .error e => (.error (.store e), w)
  | .ok none => (.error (.internal ("no record stored under " ++ key)), w)
  | .ok (some record) => Job.run c config key record w

end Batch

end PathAudit
