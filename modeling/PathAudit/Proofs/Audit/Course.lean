import PathAudit.Audit.Loop
import PathAudit.Proofs.Audit.Dispatch
import PathAudit.Proofs.Audit.Exchanges

/-! The course of an audit as a relation. Each way a step can go is one constructor and carries the
requests made in it; a run is a course from its start to a finished audit. Whatever holds of every
run is shown of the steps and carried along the course. -/
namespace PathAudit.Audit
open World (Consulted ForFindings)

inductive Answer (r : Resolver) (call : ToolCall) (s : Session) : String × Bool → Session → Prop
  | repeated (prior : String)
      (known : priorResult? s.history (Action.describe call) = some prior) :
      Answer r call s (Prompt.repeatedCall ++ prior, false) { s with repeatCall := true }
  | undecodable (reason : String)
      (new : priorResult? s.history (Action.describe call) = none)
      (unread : Action.ofCall call = .error reason) :
      Answer r call s (Action.describe call ++ " failed: " ++ reason, true)
        { s with repeatCall := true }
  | failed (action : Action) (outcome : ActionOutcome) (after : Session)
      (new : priorResult? s.history (Action.describe call) = none)
      (decoded : Action.ofCall call = .ok action)
      (ending : Service.Ending r s action outcome after) (error : outcome.isError = true) :
      Answer r call s (Action.describe call ++ " failed: " ++ outcome.content, true)
        { after with repeatCall := true }
  | succeeded (action : Action) (outcome : ActionOutcome) (after : Session)
      (new : priorResult? s.history (Action.describe call) = none)
      (decoded : Action.ofCall call = .ok action)
      (ending : Service.Ending r s action outcome after) (fine : outcome.isError = false) :
      Answer r call s (Action.describe call ++ " succeeded: " ++ outcome.content, false) after

theorem Answer.keeps {r : Resolver} {call : ToolCall} {s after : Session} {told : String × Bool}
    (answer : Answer r call s told after) :
    after.history = s.history ∧ after.verdict = s.verdict := by
  cases answer with
  | repeated => exact ⟨rfl, rfl⟩
  | undecodable => exact ⟨rfl, rfl⟩
  | failed action outcome after new decoded ending =>
    cases ending <;> exact ⟨rfl, rfl⟩
  | succeeded action outcome after new decoded ending =>
    cases ending <;> exact ⟨rfl, rfl⟩

def reasoned (s : Session) (reply : Except GatewayError AssistantMessage) : Exchange :=
  ⟨reasoner s, question s, reply⟩

def reviewed (s : Session) (reply : Except GatewayError AssistantMessage) : Exchange :=
  ⟨.verifier, Gate.request (context s) s.lastArtifact, reply⟩

/-- What one step of an audit can do, with the requests it makes. -/
inductive Moves (r : Resolver) (config : AuditConfig) : Audit → List Exchange → Audit → Prop
  | annotated (s : Session) (n : Nat) :
      Moves r config ⟨s, n, .annotating []⟩ [] ⟨s, n, .drawing⟩
  | annotate (s : Session) (n : Nat) (node : FunctionId) (nodes : List FunctionId)
      (annotations : Annotations) (made : List Exchange) (findings : ∀ x ∈ made, ForFindings x) :
      Moves r config ⟨s, n, .annotating (node :: nodes)⟩ made
        ⟨{ s with annotations }, n, .annotating nodes⟩
  | draw (s : Session) (n : Nat) (artifact : Option Attachment) :
      Moves r config ⟨s, n, .drawing⟩ [] ⟨{ s with lastArtifact := artifact }, n, .reasoning⟩
  | exhaust (s : Session) (n : Nat) (spent : config.maxSteps ≤ n) :
      Moves r config ⟨s, n, .reasoning⟩ [] ⟨s, n, .finished (.error (.budgetExhausted n))⟩
  | unanswered (s : Session) (n : Nat) (e : GatewayError) (left : n < config.maxSteps) :
      Moves r config ⟨s, n, .reasoning⟩ [reasoned s (.error e)]
        ⟨{ s with repeatCall := false }, n + 1, .finished (.error (.gateway e))⟩
  | propose (s : Session) (n : Nat) (reply : AssistantMessage) (left : n < config.maxSteps)
      (final : reply.calls = []) :
      Moves r config ⟨s, n, .reasoning⟩ [reasoned s (.ok reply)]
        ⟨{ s with repeatCall := false, history := s.history ++ [.assistant reply] }, n + 1,
          .proposing reply.text⟩
  | request (s : Session) (n : Nat) (reply : AssistantMessage) (left : n < config.maxSteps)
      (wants : reply.calls ≠ []) :
      Moves r config ⟨s, n, .reasoning⟩ [reasoned s (.ok reply)]
        ⟨{ s with repeatCall := false, history := s.history ++ [.assistant reply] }, n + 1,
          .acting reply.calls⟩
  | acted (s : Session) (n : Nat) :
      Moves r config ⟨s, n, .acting []⟩ [] ⟨s, n, .reasoning⟩
  | act (s : Session) (n : Nat) (call : ToolCall) (calls : List ToolCall) (text : String)
      (isError : Bool) (after : Session) (made : List Exchange)
      (answer : Answer r call s (text, isError) after) (findings : ∀ x ∈ made, ForFindings x) :
      Moves r config ⟨s, n, .acting (call :: calls)⟩ made
        ⟨{ after with history := after.history ++ [.toolResult ⟨call.id, text, isError⟩] }, n,
          .acting calls⟩
  | present (s : Session) (n : Nat) (text : String) (artifact : Option Attachment) :
      Moves r config ⟨s, n, .proposing text⟩ []
        ⟨{ s with lastArtifact := artifact }, n, .verifying text (Reply.remark text)⟩
  | unverified (s : Session) (n : Nat) (text remark : String) (e : GatewayError) :
      Moves r config ⟨s, n, .verifying text remark⟩ [reviewed s (.error e)]
        ⟨s, n, .finished (.error (.gateway e))⟩
  | reject (s : Session) (n : Nat) (text remark : String) (reply : AssistantMessage)
      (feedback : String) (rejected : Decision.ofReply reply.text = .rejected feedback) :
      Moves r config ⟨s, n, .verifying text remark⟩ [reviewed s (.ok reply)]
        ⟨{ s with history := s.history ++ [.userText (Prompt.rejection ++ feedback)] }, n,
          .reasoning⟩
  | accept (s : Session) (n : Nat) (text remark : String) (reply : AssistantMessage)
      (isVulnerable : Bool) (feedback : String) (artifact : Option Attachment)
      (accepted : Decision.ofReply reply.text = .accepted isVulnerable feedback) :
      Moves r config ⟨s, n, .verifying text remark⟩ [reviewed s (.ok reply)]
        ⟨{ s with verdict := some ⟨isVulnerable, text, feedback⟩, lastArtifact := artifact }, n,
          .concluding text⟩
  | conclude (s : Session) (n : Nat) (text : String) (verdict : Verdict)
      (decided : s.verdict = some verdict) :
      Moves r config ⟨s, n, .concluding text⟩ [] ⟨s, n, .finished (.ok ⟨verdict, text, n⟩)⟩
  | undecided (s : Session) (n : Nat) (text : String) (none : s.verdict = none) :
      Moves r config ⟨s, n, .concluding text⟩ []
        ⟨s, n, .finished (.error (.internal "finished without a verdict"))⟩

section Steps
variable {σ : Type}

theorem annotate_spec (c : Collaborators σ) (config : AuditConfig) (s : Session)
    (node : FunctionId) (w : World σ) :
    (∃ annotations, (annotate c config s node w).1 = { s with annotations }) ∧
      Consulted w (annotate c config s node w).2 := by
  unfold annotate
  split
  next => exact ⟨⟨s.annotations, rfl⟩, .of_eq rfl⟩
  next =>
    dsimp only
    split
    next => exact ⟨⟨s.annotations, rfl⟩, .of_eq rfl⟩
    next body _ =>
      refine ⟨⟨_, rfl⟩, ?_⟩
      exact Extraction.analyze_consulted c config.service.extraction node body _ s.sink none
        (w.tell (c.resolver.notices node))

theorem drawOrWarn_spec (c : Collaborators σ) (s : Session) (remark : Option String)
    (complaint : String) (w : World σ) :
    (∃ artifact, (drawOrWarn c s remark complaint w).1 = { s with lastArtifact := artifact }) ∧
      (drawOrWarn c s remark complaint w).2.exchanges = w.exchanges := by
  have session := Service.rerender_session c s remark w
  have kept := Service.exchanges_rerender c s remark w
  unfold drawOrWarn
  split
  next drawn =>
    rw [drawn] at session kept
    exact ⟨session, kept⟩
  next drawn =>
    rw [drawn] at session kept
    exact ⟨session, kept⟩

theorem respond_answer (c : Collaborators σ) (config : AuditConfig) (call : ToolCall) (s : Session)
    (w : World σ) :
    Answer c.resolver call s (respond c config call s w).1 (respond c config call s w).2.1 ∧
      Consulted w (respond c config call s w).2.2 := by
  unfold respond
  split
  next prior known => exact ⟨.repeated prior known, .of_eq rfl⟩
  next new =>
    unfold execute
    dsimp only
    split
    next reason unread => exact ⟨.undecodable reason new unread, .of_eq rfl⟩
    next action decoded =>
      have ending := Service.dispatch_ending c config.service s action w
      have consulted := Service.dispatch_consulted c config.service s action w
      generalize Service.dispatch c config.service s action w = done at ending consulted ⊢
      obtain ⟨outcome, after, later⟩ := done
      dsimp only
      split
      next error => exact ⟨.failed action outcome after new decoded ending error, consulted⟩
      next fine =>
        refine ⟨.succeeded action outcome after new decoded ending ?_, consulted⟩
        simpa using fine

theorem reason_spec (c : Collaborators σ) (config : AuditConfig) (n : Nat) (s : Session)
    (w : World σ) :
    (∃ e, (reason c config n s w).1 = .error (.gateway e) ∧
      (reason c config n s w).2.1 = { s with repeatCall := false } ∧
      (reason c config n s w).2.2.exchanges = w.exchanges ++ [reasoned s (.error e)]) ∨
    ∃ reply, (reason c config n s w).1 = .ok reply ∧
      (reason c config n s w).2.1 =
        { s with repeatCall := false, history := s.history ++ [.assistant reply] } ∧
      (reason c config n s w).2.2.exchanges = w.exchanges ++ [reasoned s (.ok reply)] := by
  have grown := World.exchanges_ask w c (reasoner s) (question s) config.options
  unfold reason
  dsimp only
  split
  next e later asked =>
    change w.ask c (reasoner s) (question s) config.options = _ at asked
    rw [asked] at grown
    exact Or.inl ⟨e, rfl, rfl, grown⟩
  next reply later asked =>
    change w.ask c (reasoner s) (question s) config.options = _ at asked
    rw [asked] at grown
    refine Or.inr ⟨reply, rfl, rfl, ?_⟩
    rw [World.exchanges_record]
    exact grown

theorem judge_spec (c : Collaborators σ) (config : AuditConfig) (text remark : String)
    (s : Session) (w : World σ) :
    (∃ e, (judge c config text remark s w).1 = .error (.gateway e) ∧
      (judge c config text remark s w).2.1 = s ∧
      (judge c config text remark s w).2.2.exchanges = w.exchanges ++ [reviewed s (.error e)]) ∨
    ∃ reply, (judge c config text remark s w).2.2.exchanges =
        w.exchanges ++ [reviewed s (.ok reply)] ∧
      ((∃ feedback, Decision.ofReply reply.text = .rejected feedback ∧
        (judge c config text remark s w).1 = .ok false ∧
        (judge c config text remark s w).2.1 =
          { s with history := s.history ++ [.userText (Prompt.rejection ++ feedback)] }) ∨
      ∃ isVulnerable feedback artifact,
        Decision.ofReply reply.text = .accepted isVulnerable feedback ∧
        (judge c config text remark s w).1 = .ok true ∧
        (judge c config text remark s w).2.1 =
          { s with verdict := some ⟨isVulnerable, text, feedback⟩, lastArtifact := artifact }) := by
  have grown := World.exchanges_ask w c .verifier (Gate.request (context s) s.lastArtifact)
    config.options
  unfold judge Gate.verify
  dsimp only
  generalize w.ask c .verifier (Gate.request (context s) s.lastArtifact) config.options = asked
    at grown ⊢
  obtain ⟨reply, later⟩ := asked
  cases reply with
  | error e => exact Or.inl ⟨e, rfl, rfl, grown⟩
  | ok reply =>
    refine Or.inr ⟨reply, ?_⟩
    dsimp only [Except.map]
    cases decision : Decision.ofReply reply.text with
    | rejected feedback =>
      refine ⟨?_, Or.inl ⟨feedback, rfl, rfl, rfl⟩⟩
      rw [World.exchanges_record]
      exact grown
    | accepted isVulnerable feedback =>
      obtain ⟨⟨artifact, session⟩, kept⟩ := drawOrWarn_spec c
        { s with verdict := some ⟨isVulnerable, text, feedback⟩ }
        (some (finalRemark remark feedback isVulnerable)) "render of final verdict failed"
        (later.record s.key .verdict (.object [("feedback", .string feedback),
          ("is_vulnerable", .bool isVulnerable), ("judgment", .string text)]))
      refine ⟨?_, Or.inr ⟨isVulnerable, feedback, artifact, rfl, rfl, session⟩⟩
      rw [World.exchanges_record] at kept
      exact kept.trans grown

theorem advance_moves (c : Collaborators σ) (config : AuditConfig) (a : Audit) (w : World σ)
    (running : a.result? = none) :
    ∃ made, Moves c.resolver config a made (advance c config a w).1 ∧
      (advance c config a w).2.exchanges = w.exchanges ++ made := by
  obtain ⟨s, n, phase⟩ := a
  have idle : w.exchanges = w.exchanges ++ [] := by rw [List.append_nil]
  cases phase with
  | annotating nodes =>
    cases nodes with
    | nil => exact ⟨[], .annotated s n, idle⟩
    | cons node nodes =>
      obtain ⟨⟨annotations, session⟩, made, grown, findings⟩ := annotate_spec c config s node w
      refine ⟨made, ?_, grown⟩
      simp only [advance, session]
      exact .annotate s n node nodes annotations made findings
  | drawing =>
    obtain ⟨⟨artifact, session⟩, kept⟩ := drawOrWarn_spec c s none "initial render failed" w
    refine ⟨[], ?_, kept.trans idle⟩
    simp only [advance, session]
    exact .draw s n artifact
  | reasoning =>
    simp only [advance]
    split
    next spent =>
      refine ⟨[], .exhaust s n spent, ?_⟩
      rw [World.exchanges_record]
      exact idle
    next below =>
      have left : n < config.maxSteps := Nat.lt_of_not_le below
      have told := reason_spec c config (n + 1) s w
      generalize reason c config (n + 1) s w = answer at told ⊢
      obtain ⟨result, session, later⟩ := answer
      rcases told with ⟨e, rfl, rfl, grown⟩ | ⟨reply, rfl, rfl, grown⟩
      · exact ⟨_, .unanswered s n e left, grown⟩
      · dsimp only
        split
        next final => exact ⟨_, .propose s n reply left (by simpa using final), grown⟩
        next wants => exact ⟨_, .request s n reply left (by simpa using wants), grown⟩
  | acting calls =>
    cases calls with
    | nil => exact ⟨[], .acted s n, idle⟩
    | cons call calls =>
      obtain ⟨answer, made, grown, findings⟩ := respond_answer c config call s w
      simp only [advance, act]
      generalize respond c config call s w = response at answer grown ⊢
      obtain ⟨⟨text, isError⟩, after, later⟩ := response
      refine ⟨made, .act s n call calls text isError after made answer findings, ?_⟩
      rw [World.exchanges_record]
      exact grown
  | proposing text =>
    obtain ⟨⟨artifact, session⟩, kept⟩ := drawOrWarn_spec c s (some (Reply.remark text))
      "render of candidate judgment failed" w
    refine ⟨[], ?_, kept.trans idle⟩
    simp only [advance, session]
    exact .present s n text artifact
  | verifying text remark =>
    simp only [advance]
    have told := judge_spec c config text remark s w
    generalize judge c config text remark s w = answer at told ⊢
    obtain ⟨result, session, later⟩ := answer
    rcases told with ⟨e, rfl, rfl, grown⟩ | ⟨reply, grown, decided⟩
    · exact ⟨_, .unverified session n text remark e, grown⟩
    · rcases decided with ⟨feedback, rejected, rfl, rfl⟩ |
        ⟨isVulnerable, feedback, artifact, accepted, rfl, rfl⟩
      · exact ⟨_, .reject s n text remark reply feedback rejected, grown⟩
      · exact ⟨_, .accept s n text remark reply isVulnerable feedback artifact accepted, grown⟩
  | concluding text =>
    simp only [advance]
    split
    next verdict decided => exact ⟨[], .conclude s n text verdict decided, idle⟩
    next none => exact ⟨[], .undecided s n text none, idle⟩
  | finished result => simp [result?] at running

theorem step_moves (c : Collaborators σ) (config : AuditConfig) (a : Audit) (w : World σ)
    (running : a.result? = none) :
    ∃ made, Moves c.resolver config a made (step c config a w).1 ∧
      (step c config a w).2.exchanges = w.exchanges ++ made :=
  advance_moves c config a { w with notices := [] } running

end Steps

inductive Course (r : Resolver) (config : AuditConfig) : Audit → List Exchange → Audit → Prop
  | here (a : Audit) : Course r config a [] a
  | onward (a : Audit) (made : List Exchange) (b : Audit) (later : List Exchange) (last : Audit)
      (move : Moves r config a made b) (rest : Course r config b later last) :
      Course r config a (made ++ later) last

theorem Course.keeps {r : Resolver} {config : AuditConfig}
    (holds : Audit → List Exchange → Prop)
    (kept : ∀ a made b before, Moves r config a made b → holds a before →
      holds b (before ++ made))
    {a last : Audit} {made : List Exchange} (course : Course r config a made last)
    (before : List Exchange) (initially : holds a before) : holds last (before ++ made) := by
  induction course generalizing before with
  | here a => rwa [List.append_nil]
  | onward a made b later last move rest ih =>
    rw [← List.append_assoc]
    exact ih (before ++ made) (kept a made b before move initially)

theorem phase_of_result? {a : Audit} {result : Except AuditError AuditOutcome}
    (ended : a.result? = some result) : a.phase = .finished result := by
  unfold result? at ended
  split at ended
  next phase =>
    cases ended
    exact phase
  next => contradiction

theorem run_of_running {σ : Type} (c : Collaborators σ) (config : AuditConfig) (a : Audit)
    (w : World σ) (running : a.result? = none) :
    run c config a w = run c config (step c config a w).1 (step c config a w).2 := by
  rw [run]
  split
  next ended => simp [running] at ended
  next => rfl

theorem run_course {σ : Type} (c : Collaborators σ) (config : AuditConfig) (a : Audit)
    (w : World σ) :
    ∃ made last, Course c.resolver config a made last ∧
      last.phase = .finished (run c config a w).1 ∧ (run c config a w).2.1 = last.session ∧
      (run c config a w).2.2.exchanges = w.exchanges ++ made := by
  induction a, w using run.induct c config with
  | case1 a w result ended =>
    rw [run, ended]
    exact ⟨[], a, .here a, phase_of_result? ended, rfl, by rw [List.append_nil]⟩
  | case2 a w running next after stepped ih =>
    obtain ⟨made, move, grown⟩ := step_moves c config a w running
    obtain ⟨later, last, rest, finished, session, grownOn⟩ := ih
    rw [run_of_running c config a w running]
    rw [stepped] at move grown ⊢
    refine ⟨made ++ later, last, .onward a made next later last move rest, finished, session, ?_⟩
    rw [grownOn, grown, List.append_assoc]

end PathAudit.Audit
