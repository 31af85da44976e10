import PathAudit.Proofs.Audit.Course

/-! Where a verdict comes from. A session that starts without one has one in the end exactly when
its audit succeeds, and then it is the verifier's last word on the reasoner's last message; every
opinion before was a rejection and went into the conversation. -/
namespace PathAudit.Audit
open World (ForFindings)

def opinions (made : List Exchange) : List (Except GatewayError AssistantMessage) :=
  (made.filter (·.role = .verifier)).map Exchange.reply

def userMessages (messages : List Message) : List Message :=
  messages.filter fun
    | .user _ => true
    | _ => false

def passedOn (reply : AssistantMessage) : Message :=
  .userText (Prompt.rejection ++ (Decision.ofReply reply.text).feedback)

/-- All of the replies reject, and each is one message of the user in what `after` has beyond
`before`; there is no other. -/
def Rejections (before after : List Message) (replies : List AssistantMessage) : Prop :=
  (∀ reply ∈ replies, ∃ feedback, Decision.ofReply reply.text = .rejected feedback) ∧
    ∃ added, after = before ++ added ∧ userMessages added = replies.map passedOn

def EndsIn (s : Session) (text : String) : Prop :=
  ∃ before judgment, s.history = before ++ [.assistant judgment] ∧ judgment.calls = [] ∧
    judgment.text = text

structure Undecided (initial s : Session) (made : List Exchange) : Prop where
  unset : s.verdict = none
  heard : ∃ rejected, opinions made = rejected.map .ok ∧
    Rejections initial.history s.history rejected

/-- A session that came to its verdict: the last opinion, and none before it, accepts the judgment
in which the conversation ends. -/
structure Decided (initial s : Session) (made : List Exchange) (verdict : Verdict)
    (text : String) : Prop where
  set : s.verdict = some verdict
  narrative : verdict.narrative = text
  judgment : EndsIn s text
  heard : ∃ rejected last, opinions made = rejected.map .ok ++ [.ok last] ∧
    Decision.ofReply last.text = .accepted verdict.isVulnerable verdict.feedback ∧
    Rejections initial.history s.history rejected

section Opinions

theorem opinions_append (made more : List Exchange) :
    opinions (made ++ more) = opinions made ++ opinions more := by
  simp [opinions]

theorem opinions_findings {made : List Exchange} (findings : ∀ x ∈ made, ForFindings x) :
    opinions made = [] := by
  rw [opinions, List.map_eq_nil_iff, List.filter_eq_nil_iff]
  intro x member
  rcases findings x member with role | role <;> simp [role]

theorem opinions_reasoned (s : Session) (reply : Except GatewayError AssistantMessage) :
    opinions [reasoned s reply] = [] := by
  unfold opinions reasoned reasoner
  split <;> rfl

theorem opinions_reviewed (s : Session) (reply : Except GatewayError AssistantMessage) :
    opinions [reviewed s reply] = [reply] := rfl

theorem userMessages_append (messages more : List Message) :
    userMessages (messages ++ more) = userMessages messages ++ userMessages more := by
  simp [userMessages]

end Opinions

section Sessions
variable {initial s next : Session} {before made : List Exchange}

theorem Rejections.add {initial history : List Message} {replies : List AssistantMessage}
    (heard : Rejections initial history replies) (more : List Message)
    (quiet : userMessages more = []) : Rejections initial (history ++ more) replies := by
  obtain ⟨reject, added, grown, told⟩ := heard
  refine ⟨reject, added ++ more, by rw [grown, List.append_assoc], ?_⟩
  rw [userMessages_append, quiet, List.append_nil, told]

theorem Undecided.onward (pending : Undecided initial s before) (more : List Message)
    (verdict : next.verdict = s.verdict) (grown : next.history = s.history ++ more)
    (quiet : userMessages more = []) (silent : opinions made = []) :
    Undecided initial next (before ++ made) := by
  obtain ⟨rejected, opinions, heard⟩ := pending.heard
  refine ⟨verdict.trans pending.unset, rejected, ?_, ?_⟩
  · rw [opinions_append, silent, List.append_nil, opinions]
  · rw [grown]
    exact heard.add more quiet

theorem Undecided.still (pending : Undecided initial s before)
    (verdict : next.verdict = s.verdict) (history : next.history = s.history)
    (silent : opinions made = []) : Undecided initial next (before ++ made) :=
  pending.onward [] verdict (by rw [history, List.append_nil]) rfl silent

theorem Undecided.rejected (pending : Undecided initial s before) {reply : AssistantMessage}
    {feedback : String} (rejected : Decision.ofReply reply.text = .rejected feedback) :
    Undecided initial
      { s with history := s.history ++ [.userText (Prompt.rejection ++ feedback)] }
      (before ++ [reviewed s (.ok reply)]) := by
  obtain ⟨earlier, opinions, reject, added, grown, told⟩ := pending.heard
  refine ⟨pending.unset, earlier ++ [reply], ?_, ?_, added ++ [passedOn reply], ?_, ?_⟩
  · rw [opinions_append, opinions_reviewed, opinions, List.map_append]
    rfl
  · intro other member
    rcases List.mem_append.mp member with early | late
    · exact reject other early
    · rw [List.mem_singleton.mp late]
      exact ⟨feedback, rejected⟩
  · rw [grown, passedOn, rejected, List.append_assoc]
    rfl
  · rw [userMessages_append, told, List.map_append]
    rfl

theorem Undecided.accepted (pending : Undecided initial s before) {text : String}
    (judgment : EndsIn s text) {reply : AssistantMessage} {isVulnerable : Bool}
    {feedback : String}
    (accepted : Decision.ofReply reply.text = .accepted isVulnerable feedback)
    (artifact : Option Attachment) :
    Decided initial
      { s with verdict := some ⟨isVulnerable, text, feedback⟩, lastArtifact := artifact }
      (before ++ [reviewed s (.ok reply)]) ⟨isVulnerable, text, feedback⟩ text := by
  obtain ⟨rejected, opinions, heard⟩ := pending.heard
  refine ⟨rfl, rfl, judgment, rejected, reply, ?_, accepted, heard⟩
  rw [opinions_append, opinions_reviewed, opinions]

end Sessions

def Accounted (initial : Session) (a : Audit) (made : List Exchange) : Prop :=
  match a.phase with
  | .annotating _ | .drawing | .reasoning | .acting _ => Undecided initial a.session made
  | .proposing text | .verifying text _ =>
    Undecided initial a.session made ∧ EndsIn a.session text
  | .concluding text => ∃ verdict, Decided initial a.session made verdict text
  | .finished (.ok outcome) => Decided initial a.session made outcome.verdict outcome.finalText
  | .finished (.error _) => a.session.verdict = none

theorem start_accounted (config : AuditConfig) (s : Session) (fresh : s.verdict = none) :
    Accounted s (start config s) [] := by
  have nothing : Rejections s.history s.history [] := ⟨by simp, [], by simp, rfl⟩
  have pending : Undecided s s [] := ⟨fresh, [], rfl, nothing⟩
  unfold Accounted start
  cases config.annotateOnStart
  · exact pending
  · exact pending

theorem Moves.accounted {r : Resolver} {config : AuditConfig} {initial : Session} (a : Audit)
    (made : List Exchange) (b : Audit) (before : List Exchange) (move : Moves r config a made b)
    (holds : Accounted initial a before) : Accounted initial b (before ++ made) := by
  -- Before a judgment is accepted only the verifier's reply changes what is known.
  cases move with
  | annotated s n => exact holds.still rfl rfl rfl
  | annotate s n node nodes annotations made findings =>
    exact holds.still rfl rfl (opinions_findings findings)
  | draw s n artifact => exact holds.still rfl rfl rfl
  | exhaust s n spent => exact holds.unset
  | unanswered s n e left => exact holds.unset
  | propose s n reply left final =>
    refine ⟨holds.onward [.assistant reply] rfl rfl rfl (opinions_reasoned s _), ?_⟩
    exact ⟨s.history, reply, rfl, final, rfl⟩
  | request s n reply left wants =>
    exact holds.onward [.assistant reply] rfl rfl rfl (opinions_reasoned s _)
  | acted s n => exact holds.still rfl rfl rfl
  | act s n call calls text isError after made answer findings =>
    obtain ⟨history, verdict⟩ := answer.keeps
    refine holds.onward [.toolResult ⟨call.id, text, isError⟩] verdict ?_ rfl
      (opinions_findings findings)
    rw [history]
  | present s n text artifact =>
    exact ⟨holds.1.still rfl rfl rfl, holds.2⟩
  | unverified s n text remark e => exact holds.1.unset
  | reject s n text remark reply feedback rejected => exact holds.1.rejected rejected
  | accept s n text remark reply isVulnerable feedback artifact accepted =>
    exact ⟨_, holds.1.accepted holds.2 accepted artifact⟩
  | conclude s n text verdict decided =>
    obtain ⟨settled, decision⟩ := holds
    have same : settled = verdict := Option.some.inj (decision.set.symm.trans decided)
    subst same
    rw [List.append_nil]
    exact decision
  | undecided s n text none =>
    obtain ⟨settled, decision⟩ := holds
    exact absurd (none.symm.trans decision.set) (by simp)

/-- A fresh session has a verdict in the end exactly when its audit succeeds. It is the verifier's
last word on the judgment in which the conversation ends; all that the verifier said before were
rejections, each passed on once. -/
theorem run_verdict_sound {σ : Type} (c : Collaborators σ) (config : AuditConfig) (s : Session)
    (w : World σ) (fresh : s.verdict = none) :
    let ended := run c config (start config s) w
    ((∃ outcome, ended.1 = .ok outcome) ↔ ended.2.1.verdict.isSome = true) ∧
    (∀ outcome, ended.1 = .ok outcome → ∃ made, ended.2.2.exchanges = w.exchanges ++ made ∧
      Decided s ended.2.1 made outcome.verdict outcome.finalText) ∧
    ∀ e, ended.1 = .error e → ended.2.1.verdict = none := by
  obtain ⟨made, last, course, finished, session, grown⟩ := run_course c config (start config s) w
  have holds := course.keeps (Accounted s) Moves.accounted [] (start_accounted config s fresh)
  rw [List.nil_append, Accounted, finished, ← session] at holds
  generalize run c config (start config s) w = ended at holds grown ⊢
  obtain ⟨result, final, after⟩ := ended
  cases result with
  | ok outcome =>
    have set : final.verdict = some outcome.verdict := holds.set
    refine ⟨?_, ?_, ?_⟩
    · simp [set]
    · intro other same
      cases Except.ok.inj same
      exact ⟨made, grown, holds⟩
    · intro e same
      contradiction
  | error e =>
    have unset : final.verdict = none := holds
    refine ⟨?_, ?_, ?_⟩
    · simp [unset]
    · intro other same
      contradiction
    · intro _ _
      exact unset

def acceptance : String :=
  "\x7b\"is_accurate_and_complete\": true, \"is_vulnerable\": false, \"feedback\": \"ok\"\x7d"

theorem ofReply_acceptance : Decision.ofReply acceptance = .accepted false "ok" := by
  simp only [Decision.ofReply, Reply.members, Reply.value, Json.parse, Raw.ofText, acceptance,
    String.reduceToList]
  decide +kernel

def insistent : Collaborators Unit where
  resolver := ({} : CodeBase).resolver
  model _ := ""
  ask role request _ outside :=
    let text := if role = .verifier then if request.messages.length < 3 then "no" else acceptance
      else "safe"
    (.ok [.done (.ofText text) .endTurn], outside)
  draw _ _ _ outside := (.error (.graphviz "no drawings"), outside)

def brief : AuditConfig := { annotateOnStart := false }

private def midway (history : List Message) (steps : Nat) (phase : Phase) : Audit :=
  ⟨{ Service.threeCalls with history }, steps, phase⟩

private theorem step_reasoned (history : List Message) (n : Nat) (left : n < 100)
    (w : World Unit) :
    (step insistent brief (midway history n .reasoning) w).1 =
      midway (history ++ [.assistantText "safe"]) (n + 1) (.proposing "safe") := by
  have within : ¬brief.maxSteps ≤ n := Nat.not_le_of_lt left
  have text : (AssistantMessage.ofText "safe").text = "safe" := rfl
  have idle : (AssistantMessage.ofText "safe").calls.isEmpty = true := rfl
  have turn : reasoner { Service.threeCalls with history } = .instruct := rfl
  have other : Role.instruct ≠ .verifier := by decide
  simp only [step_fst, midway, advance, within, if_false, reason, turn, World.ask, insistent, other,
    Reply.complete, StreamEvent.settle, text, idle, if_true]
  rfl

private theorem ofReply_no : Decision.ofReply "no" = .rejected "could not parse verification" := by
  cbv

private theorem step_rejected (history : List Message) (short : history.length < 2)
    (w : World Unit) :
    (step insistent brief (midway history 1 (.verifying "safe" (Reply.remark "safe"))) w).1 =
      midway (history ++ [.userText (Prompt.rejection ++ "could not parse verification")]) 1
        .reasoning := by
  have few : history.length + 1 < 3 := by omega
  have text : (AssistantMessage.ofText "no").text = "no" := rfl
  simp only [step_fst, midway, advance, judge, Gate.verify, World.ask, insistent, Gate.request,
    context, List.length_append, List.length_singleton, few, if_true, Reply.complete,
    StreamEvent.settle, Except.map, text, ofReply_no]

private theorem step_accepted (history : List Message) (long : 2 ≤ history.length)
    (w : World Unit) :
    (step insistent brief (midway history 2 (.verifying "safe" (Reply.remark "safe"))) w).1 =
      ⟨{ Service.threeCalls with history, verdict := some ⟨false, "safe", "ok"⟩ }, 2,
        .concluding "safe"⟩ := by
  have many : ¬history.length + 1 < 3 := by omega
  have text : (AssistantMessage.ofText acceptance).text = acceptance := rfl
  simp only [step_fst, midway, advance, judge, Gate.verify, World.ask, insistent, Gate.request,
    context, List.length_append, List.length_singleton, many, if_true, if_false, Reply.complete,
    StreamEvent.settle, Except.map, text, ofReply_acceptance]
  rfl

private theorem run_fst_of_step {a : Audit} (b : Audit) (running : a.result? = none)
    (stepped : ∀ w, (step insistent brief a w).1 = b) {result : Except AuditError AuditOutcome}
    (rest : ∀ w, (run insistent brief b w).1 = result) (w : World Unit) :
    (run insistent brief a w).1 = result := by
  rw [run_of_running insistent brief a w running, stepped]
  exact rest _

theorem run_verdict_sound_insistent :
    Service.threeCalls.verdict = none ∧
      ∃ made, (run insistent brief (start brief Service.threeCalls) { outside := () }).1 =
          .ok ⟨⟨false, "safe", "ok"⟩, "safe", 2⟩ ∧
        Decided Service.threeCalls
          (run insistent brief (start brief Service.threeCalls) { outside := () }).2.1 made
          ⟨false, "safe", "ok"⟩ "safe" := by
  have ended : (run insistent brief (start brief Service.threeCalls) { outside := () }).1 =
      .ok ⟨⟨false, "safe", "ok"⟩, "safe", 2⟩ := by
    let said : Message := .assistantText "safe"
    let told : Message := .userText (Prompt.rejection ++ "could not parse verification")
    let presented : Phase := .verifying "safe" (Reply.remark "safe")
    refine run_fst_of_step (midway [] 0 .reasoning) rfl (fun _ => rfl) (fun w => ?_) _
    refine run_fst_of_step (midway [said] 1 (.proposing "safe")) rfl (step_reasoned _ _ (by decide))
      (fun w => ?_) w
    refine run_fst_of_step (midway [said] 1 presented) rfl (fun _ => rfl) (fun w => ?_) w
    refine run_fst_of_step (midway [said, told] 1 .reasoning) rfl (step_rejected _ (by simp))
      (fun w => ?_) w
    refine run_fst_of_step (midway [said, told, said] 2 (.proposing "safe")) rfl
      (step_reasoned _ _ (by decide)) (fun w => ?_) w
    refine run_fst_of_step (midway [said, told, said] 2 presented) rfl (fun _ => rfl)
      (fun w => ?_) w
    refine run_fst_of_step _ rfl (step_accepted _ (by simp)) (fun w => ?_) w
    rw [run_of_running _ _ _ _ rfl, run]
    rfl
  obtain ⟨made, -, decided⟩ :=
    (run_verdict_sound insistent brief Service.threeCalls _ rfl).2.1 _ ended
  exact ⟨rfl, made, ended, decided⟩

end PathAudit.Audit
