import PathAudit.Proofs.Audit.Conversation
import PathAudit.Proofs.Store.Transcript

/-! The transcript of an audit beside its conversation. Both are written step by step, in different
places; whatever way a run takes, its events tell the messages in their order, each reply followed
by what came of it. What is read later are the texts of the events, in which a number need not come
back as it was. -/
namespace PathAudit

section Frames
variable {σ : Type}

namespace World

theorem store_ask {w after : World σ} {c : Collaborators σ} {role : Role} {context : ChatContext}
    {options : ChatOptions} {reply : Except GatewayError AssistantMessage}
    (asked : w.ask c role context options = (reply, after)) : after.store = w.store := by
  have kept : (w.ask c role context options).2.store = w.store := rfl
  rwa [asked] at kept

theorem store_draw {w after : World σ} {c : Collaborators σ} {path : String} {view : PathView}
    {remark : Option String} {drawing : Except RenderError Attachment}
    (drawn : w.draw c path view remark = (drawing, after)) : after.store = w.store := by
  have kept : (w.draw c path view remark).2.store = w.store := rfl
  rwa [drawn] at kept

end World

open World

theorem Extraction.store_correct (c : Collaborators σ) (config : Config) (context : ChatContext)
    (first : AssistantMessage) (fix : String) (old : Option Members) (w : World σ) :
    (correct c config context first fix old w).2.store = w.store := by
  unfold correct
  dsimp only
  split
  next asked =>
    have kept := store_ask asked
    exact kept
  next asked =>
    have kept := store_ask asked
    split
    · exact kept
    · exact kept

theorem Extraction.store_analyze (c : Collaborators σ) (config : Config) (function : FunctionId)
    (body : String) (callees : List FunctionId) (sink : FunctionId)
    (attachment : Option Attachment) (w : World σ) :
    (analyze c config function body callees sink attachment w).2.store = w.store := by
  unfold analyze
  dsimp only
  split
  next asked =>
    have kept := store_ask asked
    exact kept
  next first after asked =>
    have kept := store_ask asked
    cases fix? config.maxKeyCodeLines (Reply.members first.text) with
    | none =>
      dsimp only
      split
      · exact kept
      · exact kept
    | some fix =>
      have onward := store_correct c config
        (.single none (question function body callees sink attachment)) first fix
        (Reply.members first.text).toOption after
      dsimp only
      split
      · exact onward.trans kept
      · exact onward.trans kept

namespace Service

theorem store_rerender (c : Collaborators σ) (s : Session) (remark : Option String) (w : World σ) :
    (rerender c s remark w).2.2.store = w.store := by
  unfold rerender
  split
  next drawn => exact store_draw drawn
  next drawn => exact store_draw drawn

theorem store_committed (c : Collaborators σ) (s : Session) (text : String) (w : World σ) :
    (committed c s text w).2.2.store = w.store := by
  have kept := store_rerender c s none w
  unfold committed
  split
  next drawn => rwa [drawn] at kept
  next drawn => rwa [drawn] at kept

theorem store_dispatch (c : Collaborators σ) (config : Config) (s : Session) (action : Action)
    (w : World σ) : (dispatch c config s action w).2.2.store = w.store := by
  change (perform c config s action { w with notices := [] }).2.2.store = w.store
  cases action with
  | addFunction suffix callers =>
    unfold perform extend
    dsimp only
    split
    next => rfl
    next plan prepared =>
      rw [ExtendPlan.apply_prepared prepared]
      dsimp only
      rw [store_committed]
      have kept := Extraction.store_analyze c config.extraction plan.resolved plan.body [] s.sink
        s.lastArtifact
        (World.tell { w with notices := [] } (ExtendPlan.notices s.graph c.resolver suffix callers))
      split
      · exact kept
      · exact kept
  | compress start intermediates stop label =>
    unfold perform compress
    dsimp only
    split
    next => rfl
    next plan prepared =>
      rw [CompressPlan.apply_prepared s.graph start intermediates stop label plan prepared]
      exact store_committed c _ _ _
  | update function updates =>
    unfold perform amend
    dsimp only
    split
    next => rfl
    next => exact store_committed c _ _ _
  | inspect function => rfl
  | listCallees function => rfl

end Service

namespace Audit

theorem store_annotate (c : Collaborators σ) (config : AuditConfig) (s : Session)
    (node : FunctionId) (w : World σ) : (annotate c config s node w).2.store = w.store := by
  unfold annotate
  split
  next => rfl
  next =>
    dsimp only
    split
    next => rfl
    next body _ =>
      exact Extraction.store_analyze c config.service.extraction node body _ s.sink none _

theorem store_drawOrWarn (c : Collaborators σ) (s : Session) (remark : Option String)
    (complaint : String) (w : World σ) :
    (drawOrWarn c s remark complaint w).2.store = w.store := by
  have kept := Service.store_rerender c s remark w
  unfold drawOrWarn
  split
  next drawn => rwa [drawn] at kept
  next drawn => rwa [drawn] at kept

theorem store_respond (c : Collaborators σ) (config : AuditConfig) (call : ToolCall) (s : Session)
    (w : World σ) : (respond c config call s w).2.2.store = w.store := by
  unfold respond
  split
  next => rfl
  next =>
    unfold execute
    dsimp only
    split
    next => rfl
    next action decoded =>
      have kept := Service.store_dispatch c config.service s action w
      generalize Service.dispatch c config.service s action w = done at kept ⊢
      obtain ⟨outcome, after, later⟩ := done
      dsimp only
      split
      · exact kept
      · exact kept

end Audit

end Frames

namespace World
variable {σ : Type}

theorem store_record (w : World σ) (key : String) (kind : EventKind) (payload : Json) :
    (w.record key kind payload).store = w.store.recorded key kind payload := by
  unfold record Store.recorded
  cases w.store.append key kind payload with
  | error e => rfl
  | ok added => rfl

end World

namespace Audit

inductive Entry where
  | reasoning (step : Nat) (model : String) (reply : AssistantMessage)
  | action (call : ToolCall) (text : String) (isError : Bool)
  | rejection (feedback : String)
  | verdict (verdict : Verdict)
  | failure (steps : Nat)

namespace Entry

def kind : Entry → EventKind
  | .reasoning _ _ _ => .reasoning
  | .action _ _ _ => .action
  | .rejection _ => .rejection
  | .verdict _ => .verdict
  | .failure _ => .failure

def payload : Entry → Json
  | .reasoning step model reply => reasoningPayload step model reply
  | .action call text isError => actionPayload call text isError
  | .rejection feedback => .object [("feedback", .string feedback)]
  | .verdict v =>
    .object [("feedback", .string v.feedback), ("is_vulnerable", .bool v.isVulnerable),
      ("judgment", .string v.narrative)]
  | .failure steps => failurePayload steps

end Entry

structure Response where
  call : ToolCall
  text : String
  isError : Bool

def Response.message (r : Response) : Message := .toolResult ⟨r.call.id, r.text, r.isError⟩

def Response.entry (r : Response) : Entry := .action r.call r.text r.isError

section Traces
variable (models : Role → String)

/-- Complete exchanges of a conversation, one for each of so many steps, and what is told of
them. -/
inductive Mirrored : Nat → List Message → List Entry → Prop
  | nothing : Mirrored 0 [] []
  | acted {n : Nat} {messages : List Message} {entries : List Entry} (role : Role)
      (reply : AssistantMessage) (responses : List Response)
      (earlier : Mirrored n messages entries) (wants : reply.calls ≠ [])
      (answered : responses.map (·.call) = reply.calls) :
      Mirrored (n + 1) (messages ++ .assistant reply :: responses.map (·.message))
        (entries ++ .reasoning (n + 1) (models role) reply :: responses.map (·.entry))
  | rejected {n : Nat} {messages : List Message} {entries : List Entry} (role : Role)
      (judgment : AssistantMessage) (feedback : String) (earlier : Mirrored n messages entries)
      (final : judgment.calls = []) :
      Mirrored (n + 1)
        (messages ++ [.assistant judgment, .userText (Prompt.rejection ++ feedback)])
        (entries ++ [.reasoning (n + 1) (models role) judgment, .rejection feedback])

/-- The last of so many replies is being acted on, with some calls left. -/
inductive Answering : Nat → List Message → List Entry → List ToolCall → Prop
  | intro {n : Nat} {messages : List Message} {entries : List Entry} (role : Role)
      (reply : AssistantMessage) (responses : List Response) (left : List ToolCall)
      (earlier : Mirrored models n messages entries) (wants : reply.calls ≠ [])
      (answered : responses.map (·.call) ++ left = reply.calls) :
      Answering (n + 1) (messages ++ .assistant reply :: responses.map (·.message))
        (entries ++ .reasoning (n + 1) (models role) reply :: responses.map (·.entry)) left

/-- The last of so many replies is a judgment, and nothing came of it yet. -/
inductive Judging : Nat → List Message → List Entry → String → Prop
  | intro {n : Nat} {messages : List Message} {entries : List Entry} (role : Role)
      (judgment : AssistantMessage) (earlier : Mirrored models n messages entries)
      (final : judgment.calls = []) :
      Judging (n + 1) (messages ++ [.assistant judgment])
        (entries ++ [.reasoning (n + 1) (models role) judgment]) judgment.text

def Transcribed (messages : List Message) (entries : List Entry) (asked : List Exchange) :
    Except AuditError AuditOutcome → Prop
  | .ok outcome => ∃ earlier, Judging models outcome.steps messages earlier outcome.finalText ∧
      outcome.verdict.narrative = outcome.finalText ∧
      entries = earlier ++ [.verdict outcome.verdict]
  | .error (.budgetExhausted steps) => ∃ earlier, Mirrored models steps messages earlier ∧
      entries = earlier ++ [.failure steps]
  | .error (.gateway e) => ∃ n, Mirrored models n messages entries ∨
      (∃ text, Judging models n messages entries text) ∧ Unverified asked e
  | .error _ => False

def Told (a : Audit) (messages : List Message) (entries : List Entry) (asked : List Exchange) :
    Prop :=
  match a.phase with
  | .annotating _ | .drawing | .reasoning => Mirrored models a.steps messages entries
  | .acting left => Answering models a.steps messages entries left
  | .proposing text | .verifying text _ => Judging models a.steps messages entries text
  | .concluding text => ∃ earlier verdict, Judging models a.steps messages earlier text ∧
      a.session.verdict = some verdict ∧ verdict.narrative = text ∧
      entries = earlier ++ [.verdict verdict]
  | .finished result => Transcribed models messages entries asked result

end Traces

/-- The step has something to tell: the conversation has grown, a judgment was accepted, or no
question is left. -/
def Tells (a b : Audit) : Prop :=
  a.session.history ≠ b.session.history ∨ (∃ text, b.phase = .concluding text) ∨
    ∃ steps, a.phase = .reasoning ∧ b.phase = .finished (.error (.budgetExhausted steps))

inductive Adds (key : String) (s : Store) : List Entry → Store → Prop
  | nothing : Adds key s [] s
  | one (e : Entry) : Adds key s [e] (s.recorded key e.kind e.payload)

section Growth
variable {models : Role → String} {n : Nat} {messages : List Message} {entries : List Entry}

theorem Mirrored.answering (mirrored : Mirrored models n messages entries) (role : Role)
    {reply : AssistantMessage} (wants : reply.calls ≠ []) :
    Answering models (n + 1) (messages ++ [.assistant reply])
      (entries ++ [.reasoning (n + 1) (models role) reply]) reply.calls :=
  .intro role reply [] reply.calls mirrored wants rfl

theorem Mirrored.judging (mirrored : Mirrored models n messages entries) (role : Role)
    {reply : AssistantMessage} (final : reply.calls = []) :
    Judging models (n + 1) (messages ++ [.assistant reply])
      (entries ++ [.reasoning (n + 1) (models role) reply]) reply.text :=
  .intro role reply mirrored final

theorem Answering.respond {call : ToolCall} {left : List ToolCall}
    (answering : Answering models n messages entries (call :: left)) (text : String)
    (isError : Bool) :
    Answering models n (messages ++ [.toolResult ⟨call.id, text, isError⟩])
      (entries ++ [.action call text isError]) left := by
  cases answering with
  | @intro n messages entries role reply responses left earlier wants answered =>
    have onward := Answering.intro role reply (responses ++ [⟨call, text, isError⟩]) left earlier
      wants (by simpa using answered)
    rw [List.map_append, List.map_append, ← List.cons_append, ← List.cons_append,
      ← List.append_assoc, ← List.append_assoc] at onward
    exact onward

theorem Answering.mirrored (answering : Answering models n messages entries []) :
    Mirrored models n messages entries := by
  cases answering with
  | intro role reply responses left earlier wants answered =>
    rw [List.append_nil] at answered
    exact .acted role reply responses earlier wants answered

theorem Judging.reject {text : String} (judging : Judging models n messages entries text)
    (feedback : String) :
    Mirrored models n (messages ++ [.userText (Prompt.rejection ++ feedback)])
      (entries ++ [.rejection feedback]) := by
  cases judging with
  | intro role judgment earlier final =>
    rw [List.append_assoc, List.append_assoc]
    exact .rejected role judgment feedback earlier final

end Growth

theorem Answer.key {r : Resolver} {call : ToolCall} {s after : Session} {told : String × Bool}
    (answer : Answer r call s told after) : after.key = s.key := by
  cases answer with
  | repeated => rfl
  | undecodable => rfl
  | failed action outcome after new decoded ending => cases ending <;> rfl
  | succeeded action outcome after new decoded ending => cases ending <;> rfl

theorem Moves.key {r : Resolver} {config : AuditConfig} {a b : Audit} {made : List Exchange}
    (move : Moves r config a made b) : b.session.key = a.session.key := by
  cases move with
  | act s n call calls text isError after made answer findings => exact answer.key
  | _ => rfl

section Steps
variable {σ : Type} (c : Collaborators σ) (config : AuditConfig)

theorem reason_told (n : Nat) (s : Session) (w : World σ) :
    (∃ e, (reason c config n s w).1 = .error (.gateway e) ∧
      (reason c config n s w).2.1.history = s.history ∧
      (reason c config n s w).2.2.store = w.store) ∨
    ∃ reply role, (reason c config n s w).1 = .ok reply ∧
      (reason c config n s w).2.1.history = s.history ++ [.assistant reply] ∧
      (reason c config n s w).2.2.store =
        w.store.recorded s.key .reasoning (reasoningPayload n (c.model role) reply) := by
  unfold reason
  dsimp only
  split
  next e later asked => exact Or.inl ⟨e, rfl, rfl, World.store_ask asked⟩
  next reply later asked =>
    refine Or.inr ⟨reply, reasoner s, rfl, rfl, ?_⟩
    rw [World.store_record, World.store_ask asked]

theorem act_told (call : ToolCall) (s : Session) (w : World σ) :
    ∃ text isError, (act c config call s w).1.history =
        s.history ++ [.toolResult ⟨call.id, text, isError⟩] ∧
      (act c config call s w).2.store =
        w.store.recorded s.key .action (actionPayload call text isError) := by
  have answer := (respond_answer c config call s w).1
  have kept := store_respond c config call s w
  unfold act
  generalize respond c config call s w = response at answer kept
  obtain ⟨⟨text, isError⟩, after, later⟩ := response
  refine ⟨text, isError, ?_, ?_⟩
  · dsimp only
    rw [answer.keeps.1]
  · have key : after.key = s.key := answer.key
    dsimp only at kept ⊢
    rw [World.store_record, kept, key]

theorem judge_told (text remark : String) (s : Session) (w : World σ) :
    (∃ e, (judge c config text remark s w).1 = .error (.gateway e) ∧
      (judge c config text remark s w).2.1.history = s.history ∧
      (judge c config text remark s w).2.2.store = w.store ∧
      Unverified (judge c config text remark s w).2.2.exchanges e) ∨
    (∃ feedback, (judge c config text remark s w).1 = .ok false ∧
      (judge c config text remark s w).2.1.history =
        s.history ++ [.userText (Prompt.rejection ++ feedback)] ∧
      (judge c config text remark s w).2.2.store =
        w.store.recorded s.key .rejection (.object [("feedback", .string feedback)])) ∨
    ∃ verdict : Verdict, (judge c config text remark s w).1 = .ok true ∧
      (judge c config text remark s w).2.1.history = s.history ∧
      (judge c config text remark s w).2.1.verdict = some verdict ∧ verdict.narrative = text ∧
      (judge c config text remark s w).2.2.store =
        w.store.recorded s.key .verdict (Entry.payload (.verdict verdict)) := by
  unfold judge Gate.verify
  dsimp only
  generalize asking : w.ask c .verifier (Gate.request (context s) s.lastArtifact) config.options =
    asked
  obtain ⟨reply, later⟩ := asked
  have kept := World.store_ask asking
  have grown := World.exchanges_ask w c .verifier (Gate.request (context s) s.lastArtifact)
    config.options
  rw [asking] at grown
  cases reply with
  | error e =>
    refine Or.inl ⟨e, rfl, rfl, kept, reviewed s (.error e), ?_, rfl, rfl⟩
    exact (congrArg List.getLast? grown).trans List.getLast?_concat
  | ok reply =>
    refine Or.inr ?_
    dsimp only [Except.map]
    cases Decision.ofReply reply.text with
    | rejected feedback =>
      refine Or.inl ⟨feedback, rfl, rfl, ?_⟩
      rw [World.store_record]
      exact congrArg (fun store => Store.recorded store s.key _ _) kept
    | accepted isVulnerable feedback =>
      obtain ⟨⟨artifact, session⟩, -⟩ := drawOrWarn_spec c
        { s with verdict := some ⟨isVulnerable, text, feedback⟩ }
        (some (finalRemark remark feedback isVulnerable)) "render of final verdict failed"
        (later.record s.key .verdict (.object [("feedback", .string feedback),
          ("is_vulnerable", .bool isVulnerable), ("judgment", .string text)]))
      refine Or.inr ⟨⟨isVulnerable, text, feedback⟩, rfl, ?_, ?_, rfl, ?_⟩
      · exact (congrArg Session.history session :)
      · exact (congrArg Session.verdict session :)
      · dsimp only
        rw [store_drawOrWarn, World.store_record, kept]
        rfl

private theorem adds_of_eq {key : String} {s after : Store} (same : after = s) :
    Adds key s [] after := same ▸ .nothing

private theorem adds_one {key : String} {s after : Store} (e : Entry)
    (added : after = s.recorded key e.kind e.payload) : Adds key s [e] after := added ▸ .one e

theorem Told.advance {a : Audit} {w : World σ} {messages : List Message} {entries : List Entry}
    (told : Told c.model a messages entries w.exchanges) :
    ∃ said added, (advance c config a w).1.session.history = a.session.history ++ said ∧
      Adds a.session.key w.store added (advance c config a w).2.store ∧
      (added ≠ [] → Tells a (advance c config a w).1) ∧
      Told c.model (advance c config a w).1 (messages ++ said) (entries ++ added)
        (advance c config a w).2.exchanges := by
  obtain ⟨s, n, phase⟩ := a
  -- A step that says nothing and tells nothing.
  have silent {b : Audit} {after : World σ} (history : b.session.history = s.history)
      (store : after.store = w.store)
      (same : Told c.model b messages entries after.exchanges) :
      ∃ said added, b.session.history = s.history ++ said ∧ Adds s.key w.store added after.store ∧
        (added ≠ [] → Tells ⟨s, n, phase⟩ b) ∧
        Told c.model b (messages ++ said) (entries ++ added) after.exchanges :=
    ⟨[], [], by rw [history, List.append_nil], adds_of_eq store, absurd rfl,
      by rwa [List.append_nil, List.append_nil]⟩
  have speaks {b : Audit} {message : Message} {added : List Entry}
      (history : b.session.history = s.history ++ [message]) :
      added ≠ [] → Tells ⟨s, n, phase⟩ b := by
    intro _
    refine Or.inl ?_
    rw [history]
    simp
  cases phase with
  | annotating nodes =>
    cases nodes with
    | nil => exact silent rfl rfl told
    | cons node nodes =>
      obtain ⟨⟨annotations, session⟩, -⟩ := annotate_spec c config s node w
      have stored := store_annotate c config s node w
      simp only [Audit.advance]
      generalize annotate c config s node w = answer at session stored ⊢
      obtain ⟨after, later⟩ := answer
      dsimp only at session stored ⊢
      have kept : Told c.model ⟨after, n, .annotating nodes⟩ messages entries later.exchanges :=
        told
      exact silent (by rw [session]) stored kept
  | drawing =>
    obtain ⟨⟨artifact, session⟩, -⟩ := drawOrWarn_spec c s none "initial render failed" w
    refine silent ?_ (store_drawOrWarn c s none "initial render failed" w) told
    exact (congrArg Session.history session :)
  | reasoning =>
    simp only [Audit.advance]
    split
    next spent =>
      refine ⟨[], [.failure n], by rw [List.append_nil], adds_one (.failure n) ?_,
        fun _ => Or.inr (Or.inr ⟨n, rfl, rfl⟩), entries, ?_, rfl⟩
      · rw [World.store_record]
        rfl
      · rw [List.append_nil]
        exact told
    next below =>
      have reasons := reason_told c config (n + 1) s w
      generalize reason c config (n + 1) s w = answer at reasons ⊢
      obtain ⟨result, session, later⟩ := answer
      rcases reasons with ⟨e, rfl, history, store⟩ | ⟨reply, role, rfl, history, store⟩
      · exact silent history store ⟨n, Or.inl told⟩
      · dsimp only at history store ⊢
        have added := adds_one (.reasoning (n + 1) (c.model role) reply) store
        split
        next final =>
          exact ⟨_, _, history, added, speaks history,
            Mirrored.judging told role (by simpa using final)⟩
        next wants =>
          exact ⟨_, _, history, added, speaks history,
            Mirrored.answering told role (by simpa using wants)⟩
  | acting calls =>
    cases calls with
    | nil => exact silent rfl rfl (Answering.mirrored told)
    | cons call calls =>
      obtain ⟨text, isError, history, store⟩ := act_told c config call s w
      exact ⟨_, _, history, adds_one (.action call text isError) store, speaks history,
        Answering.respond told text isError⟩
  | proposing text =>
    obtain ⟨⟨artifact, session⟩, -⟩ := drawOrWarn_spec c s (some (Reply.remark text))
      "render of candidate judgment failed" w
    refine silent ?_ (store_drawOrWarn c s (some (Reply.remark text))
      "render of candidate judgment failed" w) told
    exact (congrArg Session.history session :)
  | verifying text remark =>
    simp only [Audit.advance]
    have judged := judge_told c config text remark s w
    generalize judge c config text remark s w = answer at judged ⊢
    obtain ⟨result, session, later⟩ := answer
    rcases judged with ⟨e, rfl, history, store, unverified⟩ | ⟨feedback, rfl, history, store⟩ |
      ⟨verdict, rfl, history, set, narrative, store⟩
    · exact silent history store ⟨n, Or.inr ⟨⟨text, told⟩, unverified⟩⟩
    · exact ⟨_, _, history, adds_one (.rejection feedback) store, speaks history,
        Judging.reject told feedback⟩
    · refine ⟨[], [.verdict verdict], ?_, adds_one (.verdict verdict) store,
        fun _ => Or.inr (Or.inl ⟨text, rfl⟩), ?_⟩
      · rw [List.append_nil]
        exact history
      · rw [List.append_nil]
        exact ⟨entries, verdict, told, set, narrative, rfl⟩
  | concluding text =>
    obtain ⟨earlier, verdict, judging, set, narrative, rfl⟩ := told
    have decided : s.verdict = some verdict := set
    have ended : Told c.model ⟨s, n, .finished (.ok ⟨verdict, text, n⟩)⟩ messages
        (earlier ++ [.verdict verdict]) w.exchanges := ⟨earlier, judging, narrative, rfl⟩
    simp only [Audit.advance, decided]
    exact silent rfl rfl ended
  | finished result => exact silent rfl rfl told

end Steps

theorem key_of_step {σ : Type} (c : Collaborators σ) (config : AuditConfig) (a : Audit)
    (w : World σ) : (step c config a w).1.session.key = a.session.key := by
  cases status : a.result? with
  | some result => rw [step_finished c config status]
  | none =>
    obtain ⟨made, move, -⟩ := step_moves c config a w status
    exact move.key

/-- The entries were added to the transcript of the path as these events, and nothing else was
written. -/
structure Recorded (key : String) (before after : Store) (entries : List Entry)
    (events : List AuditEvent) : Prop where
  own : ∀ e ∈ events, e.key = key
  told : events.map (fun e => (e.kind, e.payload)) = entries.map fun e => (e.kind, e.payload)
  rows : after = { before with events := before.events ++ events.map AuditEvent.row }
  numbered : after.Numbered key

section Recording
variable {key : String} {before after : Store} {entries : List Entry} {events : List AuditEvent}

theorem recorded_nothing {s : Store} (numbered : s.Numbered key) : Recorded key s s [] [] :=
  ⟨nofun, rfl, by simp, numbered⟩

theorem Recorded.add (recorded : Recorded key before after entries events) {added : List Entry}
    {later : Store} (adds : Adds key after added later)
    (appends : added ≠ [] → ∀ kind payload, ∃ result, after.append key kind payload = .ok result) :
    ∃ more, Recorded key before later (entries ++ added) (events ++ more) := by
  cases adds with
  | nothing => exact ⟨[], by rwa [List.append_nil, List.append_nil]⟩
  | one entry =>
    obtain ⟨⟨next, event⟩, appended⟩ := appends (List.cons_ne_nil _ _) entry.kind entry.payload
    obtain ⟨own, kind, payload, rows, numbered⟩ := Store.append_spec recorded.numbered appended
    have reached : after.recorded key entry.kind entry.payload = next := by
      rw [Store.recorded, appended]
    rw [reached]
    refine ⟨[event], ?_, ?_, ?_, numbered⟩
    · intro e member
      rcases List.mem_append.mp member with early | late
      · exact recorded.own e early
      · rw [List.mem_singleton.mp late]
        exact own
    · rw [List.map_append, List.map_append, recorded.told]
      simp [kind, payload]
    · rw [rows, recorded.rows, List.map_append, List.append_assoc]
      rfl

end Recording

section Along
variable {σ : Type} (c : Collaborators σ) (config : AuditConfig) (s : Session) (w : World σ)

theorem stage_told (holds : Nat → Store → List Entry → Prop) (initially : holds 0 w.store [])
    (kept : ∀ n entries added later,
      holds n (stage c config (start config s) w n).2.store entries →
      Adds s.key (stage c config (start config s) w n).2.store added later →
      (added ≠ [] → Tells (stage c config (start config s) w n).1
        (stage c config (start config s) w (n + 1)).1) → holds (n + 1) later (entries ++ added))
    (n : Nat) :
    let reached := stage c config (start config s) w n
    reached.1.session.key = s.key ∧ ∃ messages entries,
      reached.1.session.history = s.history ++ messages ∧
      Told c.model reached.1 messages entries reached.2.exchanges ∧
      holds n reached.2.store entries := by
  induction n with
  | zero =>
    refine ⟨rfl, [], [], (List.append_nil _).symm, ?_, initially⟩
    change Told c.model (start config s) [] [] w.exchanges
    unfold Told start
    cases config.annotateOnStart
    · exact .nothing
    · exact .nothing
  | succ n ih =>
    obtain ⟨key, messages, entries, history, told, held⟩ := ih
    refine ⟨(key_of_step c config _ _).trans key, ?_⟩
    obtain ⟨said, added, grown, adds, tells, onward⟩ := Told.advance c config
      (w := { (stage c config (start config s) w n).2 with notices := [] }) told
    rw [key] at adds
    refine ⟨messages ++ said, entries ++ added, ?_, onward,
      kept n entries added _ held adds tells⟩
    rw [← List.append_assoc, ← history]
    exact grown

/-- Whenever a step of the run has something to tell, an event can be added to the transcript. -/
def Appends : Prop :=
  let along := stage c config (start config s) w
  ∀ n, Tells (along n).1 (along (n + 1)).1 →
    ∀ kind payload, ∃ result, (along n).2.store.append s.key kind payload = .ok result

theorem appends_of_room {last : Nat} (ends : EndsAt c config (start config s) w last)
    (room : w.store.Room s.key last) : Appends c config s w := by
  let along := stage c config (start config s) w
  have kept (n : Nat) : n ≤ last → (along n).2.store.Room s.key (last - n) := by
    refine (stage_told c config s w (fun n store _ => n ≤ last → store.Room s.key (last - n))
      (fun _ => room) ?_ n).2.elim fun _ held => held.choose_spec.2.2
    intro n entries added later held adds _ within
    have here := held (Nat.le_of_succ_le within)
    cases adds with
    | nothing => exact here.mono (by omega)
    | one e =>
      have one : last - n = last - (n + 1) + 1 := by omega
      rw [one] at here
      obtain ⟨after, event, appended, onward⟩ := here.append e.kind e.payload
      rwa [Store.recorded, appended]
  intro n tells kind payload
  by_cases early : n < last
  · have one : last - n = last - (n + 1) + 1 := by omega
    have here := kept n (Nat.le_of_lt early)
    rw [one] at here
    obtain ⟨after, event, appended, -⟩ := here.append kind payload
    exact ⟨_, appended⟩
  · -- A finished audit has nothing to tell.
    have late := Nat.le_of_not_lt early
    rw [Tells, ends.stage_late (Nat.le_succ_of_le late), ends.stage_late late, ends.phase] at tells
    rcases tells with grown | ⟨text, concluding⟩ | ⟨steps, reasoning, -⟩
    · exact absurd rfl grown
    · contradiction
    · contradiction

theorem run_recorded (numbered : w.store.Numbered s.key) (appends : Appends c config s w) :
    let ended := run c config (start config s) w
    ∃ messages entries events, ended.2.1.history = s.history ++ messages ∧
      Transcribed c.model messages entries ended.2.2.exchanges ended.1 ∧
      Recorded s.key w.store ended.2.2.store entries events := by
  obtain ⟨last, ends⟩ := run_endsAt c config (start config s) w
  have told := stage_told c config s w
    (fun _ store entries => ∃ events, Recorded s.key w.store store entries events)
    ⟨[], recorded_nothing numbered⟩
    (fun n entries added later ⟨events, recorded⟩ adds tells =>
      (recorded.add adds fun some => appends n (tells some)).elim fun more grown => ⟨_, grown⟩) last
  obtain ⟨-, messages, entries, history, told, events, recorded⟩ := told
  rw [Told, ends.phase, ← ends.world] at told
  rw [← ends.session] at history
  rw [← ends.world] at recorded
  exact ⟨messages, entries, events, history, told, recorded⟩

end Along

end Audit

end PathAudit
