import PathAudit.Audit.Gate
import PathAudit.Audit.Service
import PathAudit.Reply.Judgment

/-! The course of an audit, one step at a time: findings for the nodes that have none, a first
drawing, and then in turn a question to a reasoner, the actions it asks for, and the verification of
its judgment, until a judgment is accepted, a request fails or the questions run out. -/
namespace PathAudit

inductive AuditError where
  | gateway (error : GatewayError)
  | budgetExhausted (steps : Nat)
  | store (error : StoreError)
  | internal (reason : String)
  deriving DecidableEq, Repr, Inhabited

namespace AuditError

def kind : AuditError → String
  | .gateway _ => "gateway"
  | .budgetExhausted _ => "budget_exhausted"
  | .store _ => "store"
  | .internal _ => "internal"

def message : AuditError → String
  | .gateway e => "gateway error: " ++ e.message
  | .budgetExhausted steps => "step budget exhausted after " ++ decimal steps ++ " steps"
  | .store e => "store error: " ++ e.message
  | .internal reason => reason

def leavesPending : AuditError → Bool
  | .gateway _ | .budgetExhausted _ => true
  | .store _ | .internal _ => false

end AuditError

structure AuditOutcome where
  verdict : Verdict
  finalText : String
  steps : Nat
  deriving DecidableEq, Repr, Inhabited

structure AuditConfig where
  maxSteps : Nat := 100
  /-- Whether nodes without findings are analysed before the first question. -/
  annotateOnStart : Bool := true
  options : ChatOptions := {}
  service : Service.Config := {}

inductive Phase where
  | annotating (nodes : List FunctionId)
  | drawing
  | reasoning
  | acting (calls : List ToolCall)
  | proposing (text : String)
  | verifying (text remark : String)
  | concluding (text : String)
  | finished (result : Except AuditError AuditOutcome)

structure Audit where
  session : Session
  steps : Nat := 0
  phase : Phase

namespace Audit

def target : String := "aegis_engine::audit"

def start (config : AuditConfig) (session : Session) : Audit where
  session
  phase := if config.annotateOnStart then .annotating session.graph.nodes else .drawing

def context (s : Session) : ChatContext := ⟨some Prompt.system, s.history, Action.catalogue⟩

/-- The conversation followed by the current drawing, which is not kept in it. -/
def question (s : Session) : ChatContext :=
  let graph : UserMessage := ⟨.text Prompt.graph :: (s.lastArtifact.map (·.content)).toList⟩
  { context s with messages := s.history ++ [.user graph] }

def reasoner (s : Session) : Role := if s.repeatCall then .think else .instruct

def reasoningPayload (step : Nat) (model : String) (reply : AssistantMessage) : Json :=
  .object [("model", .string model), ("step", .nat step), ("text", .string reply.text),
    ("tool_calls", .array (reply.calls.map fun call =>
      .object [("arguments", call.arguments), ("name", .string call.name)]))]

def actionPayload (call : ToolCall) (text : String) (isError : Bool) : Json :=
  .object [("arguments", call.arguments), ("is_error", .bool isError), ("name", .string call.name),
    ("result", .string text)]

/-- The text of an earlier result that answers a call with this description. -/
def priorResult? (history : List Message) (description : String) : Option String :=
  history.findSome? fun
    | .toolResult r =>
      match afterHead? description r.text with
      | some rest =>
        if startsWith " succeeded: " rest || startsWith " failed: " rest then some r.text else none
      | none => none
    | _ => none

variable {σ : Type}

/-- Finds something for a node that has nothing yet; the sink is left out. -/
def annotate (c : Collaborators σ) (config : AuditConfig) (s : Session) (node : FunctionId)
    (w : World σ) : Session × World σ :=
  if node = s.sink || s.annotations.hasAny node then (s, w)
  else
    let w := w.tell (c.resolver.notices node)
    match c.resolver.body node with
    | .error _ => (s, w)
    | .ok body =>
      let (findings, w) :=
        Extraction.analyze c config.service.extraction node body (s.graph.callees node) s.sink none
          w
      ({ s with annotations := s.annotations.merge node findings }, w)

def drawOrWarn (c : Collaborators σ) (s : Session) (remark : Option String) (complaint : String)
    (w : World σ) : Session × World σ :=
  match Service.rerender c s remark w with
  | (.ok (), s, w) => (s, w)
  | (.error e, s, w) => (s, w.tell [.warn target complaint [Notice.shown "error" e.message]])

def reason (c : Collaborators σ) (config : AuditConfig) (step : Nat) (s : Session) (w : World σ) :
    Except AuditError AssistantMessage × Session × World σ :=
  let role := reasoner s
  let s := { s with repeatCall := false }
  match w.ask c role (question s) config.options with
  | (.error e, w) => (.error (.gateway e), s, w)
  | (.ok reply, w) =>
    let w := w.record s.key .reasoning (reasoningPayload step (c.model role) reply)
    (.ok reply, { s with history := s.history ++ [.assistant reply] }, w)

def execute (c : Collaborators σ) (config : AuditConfig) (call : ToolCall) (s : Session)
    (w : World σ) : (String × Bool) × Session × World σ :=
  let description := Action.describe call
  match Action.ofCall call with
  | .error reason =>
    ((description ++ " failed: " ++ reason, true), { s with repeatCall := true },
      w.tell [.warn target "undecodable action"
        [Notice.shown "action" call.name, Notice.shown "reason" reason]])
  | .ok action =>
    match Service.dispatch c config.service s action w with
    | (outcome, s, w) =>
      if outcome.isError then
        ((description ++ " failed: " ++ outcome.content, true), { s with repeatCall := true }, w)
      else ((description ++ " succeeded: " ++ outcome.content, false), s, w)

/-- Answers a call: from the history if it was made before, else by carrying it out. -/
def respond (c : Collaborators σ) (config : AuditConfig) (call : ToolCall) (s : Session)
    (w : World σ) : (String × Bool) × Session × World σ :=
  match priorResult? s.history (Action.describe call) with
  | some prior =>
    ((Prompt.repeatedCall ++ prior, false), { s with repeatCall := true },
      w.tell [.warn target "repeated call" [Notice.shown "action" call.name]])
  | none => execute c config call s w

def act (c : Collaborators σ) (config : AuditConfig) (call : ToolCall) (s : Session) (w : World σ) :
    Session × World σ :=
  match respond c config call s w with
  | ((text, isError), s, w) =>
    ({ s with history := s.history ++ [.toolResult ⟨call.id, text, isError⟩] },
      w.record s.key .action (actionPayload call text isError))

def finalRemark (remark feedback : String) (isVulnerable : Bool) : String :=
  remark ++ "\n---\n### Double-check conclusion:\n" ++ feedback ++ "\n---\nIS_VULNERABLE: " ++
    if isVulnerable then "true" else "false"

/-- Has the judgment verified; whether it is accepted comes first. -/
def judge (c : Collaborators σ) (config : AuditConfig) (text remark : String) (s : Session)
    (w : World σ) : Except AuditError Bool × Session × World σ :=
  match Gate.verify c config.options (context s) s.lastArtifact w with
  | (.error e, w) => (.error (.gateway e), s, w)
  | (.ok (.rejected feedback), w) =>
    let w := w.tell [.warn target "conclusion rejected" [Notice.shown "feedback" feedback]]
    let w := w.record s.key .rejection (.object [("feedback", .string feedback)])
    (.ok false,
      { s with history := s.history ++ [.userText (Prompt.rejection ++ feedback)] }, w)
  | (.ok (.accepted isVulnerable feedback), w) =>
    let w := w.record s.key .verdict (.object [("feedback", .string feedback),
      ("is_vulnerable", .bool isVulnerable), ("judgment", .string text)])
    let s := { s with verdict := some ⟨isVulnerable, text, feedback⟩ }
    let (s, w) := drawOrWarn c s (some (finalRemark remark feedback isVulnerable))
      "render of final verdict failed" w
    (.ok true, s, w)

def failurePayload (steps : Nat) : Json :=
  .object [("reason", .string "budget_exhausted"), ("steps", .nat steps)]

/-- One step of an audit. A finished audit stays as it is. -/
def advance (c : Collaborators σ) (config : AuditConfig) (a : Audit) (w : World σ) :
    Audit × World σ :=
  match a.phase with
  | .annotating [] => ({ a with phase := .drawing }, w)
  | .annotating (node :: nodes) =>
    let (session, w) := annotate c config a.session node w
    ({ a with session, phase := .annotating nodes }, w)
  | .drawing =>
    let (session, w) := drawOrWarn c a.session none "initial render failed" w
    ({ a with session, phase := .reasoning }, w)
  | .reasoning =>
    if config.maxSteps ≤ a.steps then
      let w := w.tell [.warn target "step budget exhausted" [("steps", .nat a.steps)]]
      ({ a with phase := .finished (.error (.budgetExhausted a.steps)) },
        w.record a.session.key .failure (failurePayload a.steps))
    else
      let steps := a.steps + 1
      match reason c config steps a.session w with
      | (.error e, session, w) => (⟨session, steps, .finished (.error e)⟩, w)
      | (.ok reply, session, w) =>
        if reply.calls.isEmpty then (⟨session, steps, .proposing reply.text⟩, w)
        else (⟨session, steps, .acting reply.calls⟩, w)
  | .acting [] => ({ a with phase := .reasoning }, w)
  | .acting (call :: calls) =>
    let (session, w) := act c config call a.session w
    ({ a with session, phase := .acting calls }, w)
  | .proposing text =>
    let remark := Reply.remark text
    let (session, w) :=
      drawOrWarn c a.session (some remark) "render of candidate judgment failed" w
    ({ a with session, phase := .verifying text remark }, w)
  | .verifying text remark =>
    match judge c config text remark a.session w with
    | (.error e, session, w) => ({ a with session, phase := .finished (.error e) }, w)
    | (.ok true, session, w) => ({ a with session, phase := .concluding text }, w)
    | (.ok false, session, w) => ({ a with session, phase := .reasoning }, w)
  | .concluding text =>
    match a.session.verdict with
    | some verdict => ({ a with phase := .finished (.ok ⟨verdict, text, a.steps⟩) }, w)
    | none => ({ a with phase := .finished (.error (.internal "finished without a verdict")) }, w)
  | .finished _ => (a, w)

def step (c : Collaborators σ) (config : AuditConfig) (a : Audit) (w : World σ) :
    Audit × World σ :=
  w.under a.session.key (advance c config a)

/-- How far an audit is from its end: the questions left, then the work before the next one. -/
def remaining (config : AuditConfig) (a : Audit) : Nat × Nat :=
  let left := config.maxSteps - a.steps
  match a.phase with
  | .annotating nodes => (left + 1, nodes.length + 1)
  | .drawing => (left + 1, 0)
  | .reasoning => (left, 1)
  | .acting calls => (left, calls.length + 2)
  | .proposing _ => (left, 3)
  | .verifying _ _ => (left, 2)
  | .concluding _ => (left, 1)
  | .finished _ => (0, 0)

def result? (a : Audit) : Option (Except AuditError AuditOutcome) :=
  match a.phase with
  | .finished result => some result
  | _ => none

theorem remaining_advance (c : Collaborators σ) (config : AuditConfig) (a : Audit) (w : World σ)
    (running : a.result? = none) :
    Prod.Lex (· < ·) (· < ·) (remaining config (advance c config a w).1) (remaining config a) := by
  obtain ⟨session, steps, phase⟩ := a
  cases phase with
  | annotating nodes =>
    cases nodes with
    | nil => exact .right _ (by simp)
    | cons node nodes => exact .right _ (by simp)
  | drawing => exact .left _ _ (by simp [advance])
  | reasoning =>
    simp only [advance]
    split
    · exact (Nat.eq_zero_or_pos (config.maxSteps - steps)).elim
        (fun none => by simp only [remaining, none]; exact .right _ (by simp))
        (fun some => .left _ _ (by simpa [remaining] using some))
    · next below =>
      have fewer : config.maxSteps - (steps + 1) < config.maxSteps - steps := by omega
      split
      · exact .left _ _ (Nat.zero_lt_of_lt fewer)
      · split
        · exact .left _ _ fewer
        · exact .left _ _ fewer
  | acting calls =>
    cases calls with
    | nil => exact .right _ (by simp)
    | cons call calls => exact .right _ (by simp)
  | proposing text => exact .right _ (by simp)
  | verifying text remark =>
    simp only [advance]
    split
    · simp only [remaining]
      exact (Nat.eq_zero_or_pos (config.maxSteps - steps)).elim
        (fun none => by simp only [none]; exact .right _ (by simp))
        (fun some => .left _ _ some)
    · exact .right _ (by simp)
    · exact .right _ (by simp)
  | concluding text =>
    simp only [advance]
    split <;>
    · simp only [remaining]
      exact (Nat.eq_zero_or_pos (config.maxSteps - steps)).elim
        (fun none => by simp only [none]; exact .right _ (by simp))
        (fun some => .left _ _ some)
  | finished result => simp [result?] at running

theorem step_fst (c : Collaborators σ) (config : AuditConfig) (a : Audit) (w : World σ) :
    (step c config a w).1 = (advance c config a { w with notices := [] }).1 := rfl

def run (c : Collaborators σ) (config : AuditConfig) (a : Audit) (w : World σ) :
    Except AuditError AuditOutcome × Session × World σ :=
  match _running : a.result? with
  | some result => (result, a.session, w)
  | none =>
    match _stepped : step c config a w with
    | (next, after) => run c config next after
termination_by remaining config a
decreasing_by
  have lower := remaining_advance c config a { w with notices := [] } _running
  rwa [← step_fst, _stepped] at lower

end Audit

end PathAudit
