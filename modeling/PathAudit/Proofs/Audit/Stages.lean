import PathAudit.Proofs.Audit.Course

/-! The stages of an audit: where it stands after so many steps. A run goes through its stages up to
the first finished one and ends there; along them the conversation only grows. -/
namespace PathAudit.Audit
variable {σ : Type}

/-- The audit and the world after `n` steps; a finished audit stays where it is. -/
def stage (c : Collaborators σ) (config : AuditConfig) (a : Audit) (w : World σ) :
    Nat → Audit × World σ
  | 0 => (a, w)
  | n + 1 => step c config (stage c config a w n).1 (stage c config a w n).2

structure EndsAt (c : Collaborators σ) (config : AuditConfig) (a : Audit) (w : World σ)
    (last : Nat) : Prop where
  running : ∀ n < last, (stage c config a w n).1.result? = none
  phase : (stage c config a w last).1.phase = .finished (run c config a w).1
  session : (run c config a w).2.1 = (stage c config a w last).1.session
  world : (run c config a w).2.2 = (stage c config a w last).2

section Steps
variable (c : Collaborators σ) (config : AuditConfig)

theorem stage_step (a : Audit) (w : World σ) (n : Nat) :
    stage c config (step c config a w).1 (step c config a w).2 n = stage c config a w (n + 1) := by
  induction n with
  | zero => simp only [stage]
  | succ n ih => rw [stage, ih, stage.eq_2 c config a w (n + 1)]

theorem step_finished {a : Audit} {result : Except AuditError AuditOutcome}
    (ended : a.result? = some result) (w : World σ) : step c config a w = (a, w) := by
  have phase := phase_of_result? ended
  simp [step, World.under, advance, phase]

theorem run_of_ended {a : Audit} {result : Except AuditError AuditOutcome}
    (ended : a.result? = some result) (w : World σ) :
    run c config a w = (result, a.session, w) := by
  rw [run]
  split
  next other found => rw [Option.some.inj (ended.symm.trans found)]
  next running => simp [ended] at running

theorem run_endsAt (a : Audit) (w : World σ) : ∃ last, EndsAt c config a w last := by
  induction a, w using run.induct c config with
  | case1 a w result ended =>
    have same := run_of_ended c config ended w
    refine ⟨0, by simp, ?_, ?_, ?_⟩
    · rw [same]
      exact phase_of_result? ended
    · rw [same, stage]
    · rw [same, stage]
  | case2 a w running next after stepped ih =>
    obtain ⟨last, ends⟩ := ih
    have shifted (n : Nat) : stage c config next after n = stage c config a w (n + 1) := by
      rw [← stage_step, stepped]
    have same : run c config a w = run c config next after := by
      rw [run_of_running c config a w running, stepped]
    refine ⟨last + 1, ?_, ?_, ?_, ?_⟩
    · intro n early
      cases n with
      | zero => exact running
      | succ n =>
        rw [← shifted]
        exact ends.running n (Nat.lt_of_succ_lt_succ early)
    · rw [same, ← shifted]
      exact ends.phase
    · rw [same, ← shifted]
      exact ends.session
    · rw [same, ← shifted]
      exact ends.world

variable {c config} in
theorem EndsAt.stage_late {a : Audit} {w : World σ} {last n : Nat}
    (ends : EndsAt c config a w last) (late : last ≤ n) :
    stage c config a w n = stage c config a w last := by
  induction n, late using Nat.le_induction with
  | base => rfl
  | succ n late ih =>
    have ended : (stage c config a w last).1.result? = some (run c config a w).1 := by
      rw [result?, ends.phase]
    rw [stage, ih]
    exact step_finished c config ended _

end Steps

section Along
variable (c : Collaborators σ) (config : AuditConfig) (a : Audit) (w : World σ)

theorem stage_moves (n : Nat) :
    stage c config a w (n + 1) = stage c config a w n ∨
      ∃ made, Moves c.resolver config (stage c config a w n).1 made
          (stage c config a w (n + 1)).1 ∧
        (stage c config a w (n + 1)).2.exchanges = (stage c config a w n).2.exchanges ++ made := by
  cases status : (stage c config a w n).1.result? with
  | some result => exact Or.inl (step_finished c config status _)
  | none => exact Or.inr (step_moves c config _ _ status)

theorem stage_keeps (holds : Audit → List Exchange → Prop)
    (kept : ∀ a made b before, Moves c.resolver config a made b → holds a before →
      holds b (before ++ made))
    (initially : holds a w.exchanges) (n : Nat) :
    holds (stage c config a w n).1 (stage c config a w n).2.exchanges := by
  induction n with
  | zero => exact initially
  | succ n ih =>
    rcases stage_moves c config a w n with same | ⟨made, move, grown⟩
    · rwa [same]
    · rw [grown]
      exact kept _ made _ _ move ih

theorem run_of_finished {n : Nat} {result : Except AuditError AuditOutcome}
    (finished : (stage c config a w n).1.phase = .finished result) :
    run c config a w = (result, (stage c config a w n).1.session, (stage c config a w n).2) := by
  induction n generalizing a w with
  | zero =>
    have ended : a.result? = some result := by
      rw [stage] at finished
      rw [result?, finished]
    rw [run_of_ended c config ended, stage]
  | succ n ih =>
    rw [← stage_step] at finished ⊢
    cases status : a.result? with
    | none => rw [run_of_running c config a w status, ih _ _ finished]
    | some early =>
      rw [step_finished c config status] at finished ⊢
      exact ih _ _ finished

theorem Moves.history_grows {r : Resolver} {config : AuditConfig} {a b : Audit}
    {made : List Exchange} (move : Moves r config a made b) :
    a.session.history <+: b.session.history := by
  cases move with
  | act s n call calls text isError after made answer findings =>
    dsimp only
    rw [answer.keeps.1]
    exact List.prefix_append _ _
  | _ =>
    first
    | exact List.prefix_rfl
    | exact List.prefix_append _ _

theorem stage_history_grows {m n : Nat} (before : m ≤ n) :
    (stage c config a w m).1.session.history <+: (stage c config a w n).1.session.history := by
  induction n, before using Nat.le_induction with
  | base => exact List.prefix_rfl
  | succ n before ih =>
    rcases stage_moves c config a w n with same | ⟨made, move, -⟩
    · rwa [same]
    · exact ih.trans move.history_grows

end Along

end PathAudit.Audit
