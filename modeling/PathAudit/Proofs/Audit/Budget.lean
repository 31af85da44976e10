import PathAudit.Proofs.Audit.Stages
import PathAudit.Proofs.Audit.Verdict

/-! What an audit may cost and how it may end. No more questions are asked than the configuration
allows, each judgment is verified once, and only three things end an audit: an accepted judgment,
the last question spent, and a question or a verification that came to nothing. -/
namespace PathAudit.Audit
open World (ForFindings)

def questions (made : List Exchange) : List Exchange :=
  made.filter fun x => x.role = .instruct ∨ x.role = .think

def judgments (made : List Exchange) : List AssistantMessage :=
  (questions made).filterMap fun x => x.reply.toOption.filter (·.calls.isEmpty)

def Answered (made : List Exchange) : Prop :=
  ∀ x ∈ made, ¬ForFindings x → ∃ reply, x.reply = .ok reply

/-- So many questions were asked, all were answered, and all judgments but the pending ones have
been verified. -/
structure Tally (made : List Exchange) (steps pending : Nat) : Prop where
  answered : Answered made
  asked : (questions made).length = steps
  verified : (judgments made).length = (opinions made).length + pending

def Settled (config : AuditConfig) (made : List Exchange) : Except AuditError AuditOutcome → Prop
  | .ok outcome => Tally made outcome.steps 0
  | .error (.budgetExhausted steps) => steps = config.maxSteps ∧ Tally made steps 0
  | .error (.gateway e) =>
    ∃ before x, made = before ++ [x] ∧ Answered before ∧ ¬ForFindings x ∧ x.reply = .error e
  | .error (.store _) | .error (.internal _) => False

/-- Whether an audit may end here. In the other phases findings are asked for, drawings are made
and actions are carried out. -/
def mayEnd : Phase → Bool
  | .reasoning | .verifying _ _ | .concluding _ => true
  | _ => false

section Requests

theorem questions_append (made more : List Exchange) :
    questions (made ++ more) = questions made ++ questions more := by
  simp [questions]

theorem judgments_append (made more : List Exchange) :
    judgments (made ++ more) = judgments made ++ judgments more := by
  simp [judgments, questions_append]

theorem questions_findings {made : List Exchange} (findings : ∀ x ∈ made, ForFindings x) :
    questions made = [] := by
  rw [questions, List.filter_eq_nil_iff]
  intro x member
  rcases findings x member with role | role <;> simp [role]

theorem questions_reasoned (s : Session) (reply : Except GatewayError AssistantMessage) :
    questions [reasoned s reply] = [reasoned s reply] := by
  unfold questions reasoned reasoner
  split <;> rfl

theorem judgments_reasoned (s : Session) (reply : AssistantMessage) :
    (judgments [reasoned s (.ok reply)]).length = if reply.calls = [] then 1 else 0 := by
  rw [judgments, questions_reasoned, List.filterMap_cons, List.filterMap_nil]
  by_cases final : reply.calls = []
  · simp [reasoned, Except.toOption, Option.filter, final]
  · simp [reasoned, Except.toOption, Option.filter, final]

theorem not_forFindings_reasoned (s : Session) (reply : Except GatewayError AssistantMessage) :
    ¬ForFindings (reasoned s reply) := by
  unfold ForFindings reasoned reasoner
  split <;> simp

theorem not_forFindings_reviewed (s : Session) (reply : Except GatewayError AssistantMessage) :
    ¬ForFindings (reviewed s reply) := by
  simp [ForFindings, reviewed]

theorem Answered.append {made more : List Exchange} (first : Answered made)
    (second : Answered more) : Answered (made ++ more) := by
  intro x member
  rcases List.mem_append.mp member with early | late
  · exact first x early
  · exact second x late

theorem answered_singleton (x : Exchange) {reply : AssistantMessage} (ok : x.reply = .ok reply) :
    Answered [x] := by
  intro y member _
  rw [List.mem_singleton.mp member]
  exact ⟨reply, ok⟩

end Requests

namespace Tally
variable {made more : List Exchange} {steps pending : Nat}

theorem consulted (tally : Tally made steps pending) (findings : ∀ x ∈ more, ForFindings x) :
    Tally (made ++ more) steps pending := by
  have none := questions_findings findings
  refine ⟨tally.answered.append fun x member other => absurd (findings x member) other, ?_, ?_⟩
  · rw [questions_append, none, List.append_nil, tally.asked]
  · rw [judgments_append, opinions_append, opinions_findings findings, judgments, judgments, none,
      List.filterMap_nil, List.append_nil, List.append_nil]
    exact tally.verified

theorem idle (tally : Tally made steps pending) : Tally (made ++ []) steps pending := by
  rwa [List.append_nil]

theorem reasoned (tally : Tally made steps pending) (s : Session) (reply : AssistantMessage) :
    Tally (made ++ [Audit.reasoned s (.ok reply)]) (steps + 1)
      (pending + if reply.calls = [] then 1 else 0) := by
  refine ⟨tally.answered.append (answered_singleton _ rfl), ?_, ?_⟩
  · rw [questions_append, questions_reasoned, List.length_append, tally.asked,
      List.length_singleton]
  · rw [judgments_append, opinions_append, opinions_reasoned, List.append_nil, List.length_append,
      judgments_reasoned, tally.verified, Nat.add_assoc]

theorem reviewed (tally : Tally made steps (pending + 1)) (s : Session)
    (reply : AssistantMessage) : Tally (made ++ [Audit.reviewed s (.ok reply)]) steps pending := by
  have none : questions [Audit.reviewed s (.ok reply)] = [] := rfl
  refine ⟨tally.answered.append (answered_singleton _ rfl), ?_, ?_⟩
  · rw [questions_append, none, List.append_nil, tally.asked]
  · rw [judgments_append, opinions_append, opinions_reviewed, judgments, judgments, none,
      List.filterMap_nil, List.append_nil, List.length_append, List.length_singleton]
    rw [← judgments, tally.verified]
    omega

end Tally

/-- Between the steps the questions are those counted, and a judgment is pending from the moment
it is given until the verifier has replied. -/
def InBudget (config : AuditConfig) (a : Audit) (made : List Exchange) : Prop :=
  (questions made).length ≤ config.maxSteps ∧
    match a.phase with
    | .annotating _ | .drawing | .reasoning | .acting _ => Tally made a.steps 0
    | .proposing _ | .verifying _ _ => Tally made a.steps 1
    | .concluding _ => Tally made a.steps 0 ∧ a.session.verdict.isSome = true
    | .finished result => Settled config made result

theorem start_inBudget (config : AuditConfig) (s : Session) :
    InBudget config (start config s) [] := by
  have nothing : Tally [] 0 0 := ⟨nofun, rfl, rfl⟩
  refine ⟨Nat.zero_le _, ?_⟩
  unfold start
  cases config.annotateOnStart
  · exact nothing
  · exact nothing

theorem Moves.inBudget {r : Resolver} {config : AuditConfig} (a : Audit) (made : List Exchange)
    (b : Audit) (before : List Exchange) (move : Moves r config a made b)
    (holds : InBudget config a before) : InBudget config b (before ++ made) := by
  obtain ⟨within, holds⟩ := holds
  -- A tally carries its own count of the questions, so the bound need only be shown where a
  -- question was asked.
  have bounded {steps pending : Nat} (tally : Tally (before ++ made) steps pending)
      (left : steps ≤ config.maxSteps) :
      (questions (before ++ made)).length ≤ config.maxSteps := by
    rwa [tally.asked]
  have asked {steps pending : Nat} (tally : Tally before steps pending) :
      steps ≤ config.maxSteps := by
    rwa [tally.asked] at within
  cases move with
  | annotated s n => exact ⟨bounded holds.idle (asked holds), holds.idle⟩
  | annotate s n node nodes annotations made findings =>
    have tally := Tally.consulted holds findings
    exact ⟨bounded tally (asked holds), tally⟩
  | draw s n artifact => exact ⟨bounded holds.idle (asked holds), holds.idle⟩
  | exhaust s n spent =>
    have all : n = config.maxSteps := Nat.le_antisymm (asked holds) spent
    exact ⟨bounded holds.idle (asked holds), all, holds.idle⟩
  | unanswered s n e left =>
    have asked : (questions before).length = n := holds.asked
    refine ⟨?_, before, _, rfl, holds.answered, not_forFindings_reasoned s _, rfl⟩
    rw [questions_append, questions_reasoned, List.length_append, List.length_singleton, asked]
    exact left
  | propose s n reply left final =>
    have tally := Tally.reasoned holds s reply
    rw [if_pos final] at tally
    exact ⟨bounded tally left, tally⟩
  | request s n reply left wants =>
    have tally := Tally.reasoned holds s reply
    rw [if_neg wants] at tally
    exact ⟨bounded tally left, tally⟩
  | acted s n => exact ⟨bounded holds.idle (asked holds), holds.idle⟩
  | act s n call calls text isError after made answer findings =>
    have tally := Tally.consulted holds findings
    exact ⟨bounded tally (asked holds), tally⟩
  | present s n text artifact => exact ⟨bounded holds.idle (asked holds), holds.idle⟩
  | unverified s n text remark e =>
    refine ⟨?_, before, _, rfl, holds.answered, not_forFindings_reviewed s _, rfl⟩
    rw [questions_append]
    simpa [questions, Audit.reviewed] using within
  | reject s n text remark reply feedback rejected =>
    have tally := Tally.reviewed holds s reply
    exact ⟨bounded tally (asked holds), tally⟩
  | accept s n text remark reply isVulnerable feedback artifact accepted =>
    have tally := Tally.reviewed holds s reply
    exact ⟨bounded tally (asked holds), tally, rfl⟩
  | conclude s n text verdict decided =>
    exact ⟨bounded holds.1.idle (asked holds.1), holds.1.idle⟩
  | undecided s n text none =>
    have set : s.verdict.isSome = true := holds.2
    simp [none] at set

theorem Moves.goes_on {r : Resolver} {config : AuditConfig} {a b : Audit} {made : List Exchange}
    (move : Moves r config a made b) (working : mayEnd a.phase = false) : b.result? = none := by
  cases move with
  | annotated | annotate | draw | acted | act | present => rfl
  | _ => contradiction

/-- Every audit comes to its end, whatever those it works with do. It has asked at most as many
questions as allowed; a success reports their number and verified each judgment once; exhaustion is
reported when all are spent; any other failure is that of its last request, a question or a
verification. No step in which findings are asked for, drawings made or actions carried out ends
it. -/
theorem run_within_budget {σ : Type} (c : Collaborators σ) (config : AuditConfig) (s : Session)
    (w : World σ) :
    let along := stage c config (start config s) w
    let ended := run c config (start config s) w
    (∃ last, EndsAt c config (start config s) w last) ∧
    (∀ n, mayEnd (along n).1.phase = false → (along n).1.result? = none →
      (along (n + 1)).1.result? = none) ∧
    ∃ made, ended.2.2.exchanges = w.exchanges ++ made ∧
      (questions made).length ≤ config.maxSteps ∧ Settled config made ended.1 := by
  intro along ended
  refine ⟨run_endsAt c config (start config s) w, fun n working running => ?_, ?_⟩
  · obtain ⟨made, move, -⟩ := step_moves c config (along n).1 (along n).2 running
    exact move.goes_on working
  · obtain ⟨made, last, course, finished, session, grown⟩ := run_course c config (start config s) w
    have holds := course.keeps (InBudget config) Moves.inBudget [] (start_inBudget config s)
    rw [List.nil_append, InBudget, finished] at holds
    exact ⟨made, grown, holds⟩

end PathAudit.Audit
