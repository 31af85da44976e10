import PathAudit.Proofs.Audit.RepeatedCalls

/-! The order of a conversation. Whoever asks for actions is answered call by call before anything
else is said, and a judgment is followed by its rejection or by nothing. What is put at the end of a
request, the drawing or the verifier's task, is not kept. -/
namespace PathAudit.Audit
open World (ForFindings)

inductive Conversation : List Message → Prop
  | empty : Conversation []
  | acted (before : List Message) (reply : AssistantMessage) (results : List ToolResult)
      (earlier : Conversation before) (wants : reply.calls ≠ [])
      (answered : results.map (·.callId) = reply.calls.map (·.id)) :
      Conversation (before ++ .assistant reply :: results.map .toolResult)
  | rejected (before : List Message) (judgment : AssistantMessage) (feedback : String)
      (earlier : Conversation before) (final : judgment.calls = []) :
      Conversation (before ++ [.assistant judgment, .userText (Prompt.rejection ++ feedback)])

/-- All but the last message, which is a judgment, make up complete exchanges. -/
def AwaitsVerdict (history : List Message) : Prop :=
  ∃ before judgment, history = before ++ [.assistant judgment] ∧ Conversation before ∧
    judgment.calls = []

/-- The calls of the last reply are answered up to those that are left. -/
def AwaitsAnswers (history : List Message) (left : List ToolCall) : Prop :=
  ∃ (before : List Message) (reply : AssistantMessage) (results : List ToolResult),
    history = before ++ .assistant reply :: results.map .toolResult ∧ Conversation before ∧
    reply.calls ≠ [] ∧
    results.map (·.callId) ++ left.map (·.id) = reply.calls.map (·.id)

def Unverified (asked : List Exchange) (e : GatewayError) : Prop :=
  ∃ x, asked.getLast? = some x ∧ x.role = .verifier ∧ x.reply = .error e

/-- The order of a conversation that has come to its end. Only a judgment that was accepted, or that
could not be verified, has no reply. -/
def Concluded (history : List Message) (asked : List Exchange) :
    Except AuditError AuditOutcome → Prop
  | .ok _ => AwaitsVerdict history
  | .error (.gateway e) => Conversation history ∨ AwaitsVerdict history ∧ Unverified asked e
  | .error _ => Conversation history

def InOrder (a : Audit) (asked : List Exchange) : Prop :=
  match a.phase with
  | .annotating _ | .drawing | .reasoning => Conversation a.session.history
  | .acting left => AwaitsAnswers a.session.history left
  | .proposing _ | .verifying _ _ => AwaitsVerdict a.session.history
  | .concluding _ => AwaitsVerdict a.session.history ∧ a.session.verdict.isSome = true
  | .finished result => Concluded a.session.history asked result

theorem Moves.inOrder {r : Resolver} {config : AuditConfig} (a : Audit) (made : List Exchange)
    (b : Audit) (before : List Exchange) (move : Moves r config a made b)
    (holds : InOrder a before) : InOrder b (before ++ made) := by
  cases move with
  | annotated s n => exact holds
  | annotate s n node nodes annotations made findings => exact holds
  | draw s n artifact => exact holds
  | exhaust s n spent => exact holds
  | unanswered s n e left => exact Or.inl holds
  | propose s n reply left final => exact ⟨s.history, reply, rfl, holds, final⟩
  | request s n reply left wants => exact ⟨s.history, reply, [], rfl, holds, wants, rfl⟩
  | acted s n =>
    obtain ⟨earlier, reply, results, history, ordered, wants, answered⟩ := holds
    rw [List.map_nil, List.append_nil] at answered
    show Conversation s.history
    have told : s.history = _ := history
    rw [told]
    exact .acted earlier reply results ordered wants answered
  | act s n call calls text isError after made answer findings =>
    obtain ⟨earlier, reply, results, history, ordered, wants, answered⟩ := holds
    refine ⟨earlier, reply, results ++ [⟨call.id, text, isError⟩], ?_, ordered, wants, ?_⟩
    · dsimp only at history ⊢
      rw [answer.keeps.1, history]
      simp
    · simpa using answered
  | present s n text artifact => exact holds
  | unverified s n text remark e =>
    exact Or.inr ⟨holds, _, List.getLast?_concat, rfl, rfl⟩
  | reject s n text remark reply feedback rejected =>
    obtain ⟨earlier, judgment, history, ordered, final⟩ := holds
    have told : s.history = _ := history
    show Conversation (s.history ++ _)
    rw [told, List.append_assoc]
    exact .rejected earlier judgment feedback ordered final
  | accept s n text remark reply isVulnerable feedback artifact accepted => exact ⟨holds, rfl⟩
  | conclude s n text verdict decided => exact holds.1
  | undecided s n text none =>
    -- Only an accepted judgment is concluded, and then there is a verdict.
    have some : s.verdict.isSome = true := holds.2
    rw [none] at some
    contradiction

def drawingMessage (artifact : Option Attachment) : Message :=
  .user ⟨.text Prompt.graph :: (artifact.map (·.content)).toList⟩

def verificationMessage (artifact : Option Attachment) : Message := .user (Gate.question artifact)

/-- A question that is put when its turn has come, with the conversation so far and one message
below it. -/
structure Fitting (s : Session) (x : Exchange) : Prop where
  reasoning : x.role = .instruct ∨ x.role = .think → Conversation s.history ∧
    x.request.messages = s.history ++ [drawingMessage s.lastArtifact]
  verification : x.role = .verifier → AwaitsVerdict s.history ∧
    x.request.messages = s.history ++ [verificationMessage s.lastArtifact]

section Requests
variable {r : Resolver} {config : AuditConfig} {s : Session}

private theorem fitting_of_forFindings {x : Exchange} (findings : ForFindings x) :
    Fitting s x := by
  constructor
  · intro role
    rcases findings with other | other <;> simp [other] at role
  · intro role
    rcases findings with other | other <;> simp [other] at role

private theorem fitting_reasoned (ordered : Conversation s.history)
    (reply : Except GatewayError AssistantMessage) : Fitting s (reasoned s reply) := by
  constructor
  · intro _
    exact ⟨ordered, rfl⟩
  · intro role
    have turn : reasoner s = .verifier := role
    unfold reasoner at turn
    split at turn <;> contradiction

private theorem fitting_reviewed (ordered : AwaitsVerdict s.history)
    (reply : Except GatewayError AssistantMessage) : Fitting s (reviewed s reply) := by
  constructor
  · intro role
    have turn : Role.verifier = .instruct ∨ Role.verifier = .think := role
    rcases turn with other | other <;> contradiction
  · intro _
    exact ⟨ordered, rfl⟩

theorem Moves.fitting {a b : Audit} {made before : List Exchange} (move : Moves r config a made b)
    (holds : InOrder a before) : ∀ x ∈ made, Fitting a.session x := by
  intro x member
  cases move with
  | annotate s n node nodes annotations made findings =>
    exact fitting_of_forFindings (findings x member)
  | act s n call calls text isError after made answer findings =>
    exact fitting_of_forFindings (findings x member)
  | unanswered s n e left =>
    rw [List.mem_singleton.mp member]
    exact fitting_reasoned holds _
  | propose s n reply left final =>
    rw [List.mem_singleton.mp member]
    exact fitting_reasoned holds _
  | request s n reply left wants =>
    rw [List.mem_singleton.mp member]
    exact fitting_reasoned holds _
  | unverified s n text remark e =>
    rw [List.mem_singleton.mp member]
    exact fitting_reviewed holds _
  | reject s n text remark reply feedback rejected =>
    rw [List.mem_singleton.mp member]
    exact fitting_reviewed holds _
  | accept s n text remark reply isVulnerable feedback artifact accepted =>
    rw [List.mem_singleton.mp member]
    exact fitting_reviewed holds _
  | _ => exact nomatch member

def Lasting (m : Message) : Prop :=
  ∀ artifact, m ≠ drawingMessage artifact ∧ m ≠ verificationMessage artifact

private theorem append_opens {s : String} {c : Char} (opens : s.toList.head? = some c)
    (more : String) : (s ++ more).toList.head? = some c := by
  rw [String.toList_append, List.head?_append, opens, Option.some_or]

private theorem graph_opens : Prompt.graph.toList.head? = some 'T' := by
  unfold Prompt.graph
  apply append_opens
  rw [String.toList_ofList]
  rfl

private theorem verification_opens : Prompt.verification.toList.head? = some 'D' := by
  unfold Prompt.verification
  repeat rw [String.toList_append]
  repeat rw [List.head?_append]
  rw [String.toList_ofList]
  rfl

private theorem rejection_opens (feedback : String) :
    (Prompt.rejection ++ feedback).toList.head? = some 'C' := by
  apply append_opens
  rw [Prompt.rejection, String.toList_ofList]
  rfl

private theorem lasting_rejection (feedback : String) :
    Lasting (.userText (Prompt.rejection ++ feedback)) := by
  -- The three texts open with different letters.
  have opens {text : String} {more : List UserContent}
      (same : Message.userText (Prompt.rejection ++ feedback) = .user ⟨.text text :: more⟩) :
      text.toList.head? = some 'C' := by
    simp only [Message.userText, UserMessage.ofText, Message.user.injEq, UserMessage.mk.injEq,
      List.cons.injEq, UserContent.text.injEq] at same
    rw [← same.1, rejection_opens]
  intro artifact
  constructor
  · intro same
    exact absurd (graph_opens.symm.trans (opens same)) (by decide)
  · intro same
    exact absurd (verification_opens.symm.trans (opens same)) (by decide)

theorem Moves.lasting {a b : Audit} {made : List Exchange} (move : Moves r config a made b)
    (holds : ∀ m ∈ a.session.history, Lasting m) : ∀ m ∈ b.session.history, Lasting m := by
  have added (history : List Message) (message : Message)
      (old : ∀ m ∈ history, Lasting m) (new : Lasting message) :
      ∀ m ∈ history ++ [message], Lasting m := by
    intro m member
    rcases List.mem_append.mp member with early | late
    · exact old m early
    · rwa [List.mem_singleton.mp late]
  cases move with
  | propose s n reply left final => exact added _ _ holds fun _ => ⟨nofun, nofun⟩
  | request s n reply left wants => exact added _ _ holds fun _ => ⟨nofun, nofun⟩
  | act s n call calls text isError after made answer findings =>
    dsimp only at holds ⊢
    rw [answer.keeps.1]
    exact added _ _ holds fun _ => ⟨nofun, nofun⟩
  | reject s n text remark reply feedback rejected =>
    exact added _ _ holds (lasting_rejection feedback)
  | _ => exact holds

end Requests

theorem start_inOrder (config : AuditConfig) {s : Session} (fresh : s.history = [])
    (asked : List Exchange) : InOrder (start config s) asked := by
  have ordered : Conversation s.history := fresh ▸ .empty
  unfold InOrder start
  cases config.annotateOnStart
  · exact ordered
  · exact ordered

/-- In an audit that starts without a conversation, every question to the reasoner is put below
complete exchanges and every question to the verifier below a judgment that has no reply yet. What
stands below the conversation in a question never becomes part of it. In the end all exchanges are
complete but for a judgment that was accepted or could not be verified. -/
theorem run_conversation {σ : Type} (c : Collaborators σ) (config : AuditConfig) (s : Session)
    (w : World σ) (fresh : s.history = []) :
    let along := stage c config (start config s) w
    let ended := run c config (start config s) w
    (∀ n, ∃ made, (along (n + 1)).2.exchanges = (along n).2.exchanges ++ made ∧
      ∀ x ∈ made, Fitting (along n).1.session x) ∧
    (∀ n, ∀ m ∈ (along n).1.session.history, Lasting m) ∧
    (∃ last, EndsAt c config (start config s) w last) ∧
    Concluded ended.2.1.history ended.2.2.exchanges ended.1 := by
  intro along ended
  have ordered := stage_keeps c config (start config s) w InOrder Moves.inOrder
    (start_inOrder config fresh w.exchanges)
  have lasting := stage_keeps c config (start config s) w
    (fun a _ => ∀ m ∈ a.session.history, Lasting m) (fun a made b _ move => move.lasting)
    (fun m member => by
      have none : m ∈ s.history := member
      rw [fresh] at none
      exact nomatch none)
  refine ⟨fun n => ?_, lasting, run_endsAt c config _ w, ?_⟩
  · rcases stage_moves c config (start config s) w n with same | ⟨made, move, grown⟩
    · exact ⟨[], by rw [List.append_nil]; exact congrArg (·.2.exchanges) same, nofun⟩
    · exact ⟨made, grown, move.fitting (ordered n)⟩
  · obtain ⟨last, ends⟩ := run_endsAt c config (start config s) w
    have final := ordered last
    rw [InOrder, ends.phase, ← ends.session, ← ends.world] at final
    exact final

theorem stage_asking_last (code : CodeBase) (calls : List ToolCall) (wants : calls ≠ [])
    (s : Session) (w : World Unit) :
    (stage (asking code calls) single (start single s) w (2 + calls.length + 2)).1.phase =
      .finished (.error (.budgetExhausted 1)) := by
  let along := stage (asking code calls) single (start single s) w
  obtain ⟨acting, steps⟩ := phase_asking code calls s w wants (Nat.le_refl calls.length)
  rw [List.drop_length] at acting
  have reasoning : (along (2 + calls.length + 1)).1.phase = .reasoning ∧
      (along (2 + calls.length + 1)).1.steps = 1 := by
    simp only [along, stage, step_fst, advance, acting, steps, and_self]
  have spent : single.maxSteps ≤ 1 := Nat.le_refl 1
  simp only [along] at reasoning
  rw [stage, step_fst]
  simp only [advance, reasoning, spent, if_true]

theorem run_asking (code : CodeBase) (calls : List ToolCall) (wants : calls ≠ []) (s : Session)
    (w : World Unit) :
    (run (asking code calls) single (start single s) w).1 = .error (.budgetExhausted 1) := by
  rw [run_of_finished (asking code calls) single (start single s) w
    (stage_asking_last code calls wants s w)]

theorem run_conversation_noop :
    let calls : List ToolCall := [⟨"t1", "noop", .null⟩, ⟨"t2", "noop", .null⟩]
    let ended := run (asking {} calls) single (start single Service.threeCalls) { outside := () }
    Service.threeCalls.history = [] ∧ ended.1 = .error (.budgetExhausted 1) ∧
      Conversation ended.2.1.history := by
  intro calls ended
  have exhausted : ended.1 = .error (.budgetExhausted 1) :=
    run_asking {} calls (by simp [calls]) Service.threeCalls { outside := () }
  have ordered : Concluded ended.2.1.history ended.2.2.exchanges ended.1 :=
    (run_conversation (asking {} calls) single Service.threeCalls { outside := () } rfl).2.2.2
  rw [exhausted] at ordered
  exact ⟨rfl, exhausted, ordered⟩

end PathAudit.Audit
