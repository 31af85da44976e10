import PathAudit.Proofs.Audit.Conversation
import PathAudit.Proofs.Audit.Verdict

/-! The drawing that goes along with a request. As long as drawings succeed and depend on nothing
but the view and the remark, what a reasoner, a verifier or the extraction for a new function is
shown is the graph with the findings as they are at that moment. The remark under it is that of the
judgment presented last, until a change is made. -/
namespace PathAudit

variable {σ : Type}

/-- The same collaborators, but for drawings that cannot fail and show what `picture` makes of the
view and the remark. -/
def Collaborators.drawing (c : Collaborators σ) (picture : PathView → Option String → Attachment) :
    Collaborators σ :=
  { c with draw := fun path view remark outside =>
      (.ok (picture view remark), (c.draw path view remark outside).2) }

namespace World

/-- A request for findings that puts the given question; a second one goes on from the reply to
the first. -/
inductive Puts (first : UserMessage) : Exchange → Prop
  | asked (x : Exchange) (role : x.role = .extract) (alone : x.request.messages = [.user first]) :
      Puts first x
  | corrected (x : Exchange) (reply : AssistantMessage) (fix : String)
      (role : x.role = .extractThink)
      (onward : x.request.messages = [.user first, .assistant reply, .userText fix]) : Puts first x

def Questioned (first : UserMessage) (before after : World σ) : Prop :=
  ∃ made, after.exchanges = before.exchanges ++ made ∧ ∀ x ∈ made, Puts first x

variable {first : UserMessage} {before middle after : World σ}

theorem Questioned.of_eq (same : after.exchanges = before.exchanges) :
    Questioned first before after :=
  ⟨[], by rw [same, List.append_nil], by simp⟩

theorem Questioned.trans (early : Questioned first before middle)
    (late : Questioned first middle after) : Questioned first before after := by
  obtain ⟨made, grown, opened⟩ := early
  obtain ⟨more, grownOn, openedOn⟩ := late
  refine ⟨made ++ more, by rw [grownOn, grown, List.append_assoc], ?_⟩
  intro x member
  rcases List.mem_append.mp member with inMade | inMore
  · exact opened x inMade
  · exact openedOn x inMore

theorem questioned_ask {c : Collaborators σ} {role : Role} {context : ChatContext}
    {options : ChatOptions} {reply : Except GatewayError AssistantMessage}
    (asked : before.ask c role context options = (reply, after))
    (puts : Puts first ⟨role, context, reply⟩) : Questioned first before after := by
  have grown := exchanges_ask before c role context options
  rw [asked] at grown
  refine ⟨_, grown, ?_⟩
  intro x member
  rwa [List.mem_singleton.mp member]

end World

open World

namespace Extraction

theorem correct_questioned (c : Collaborators σ) (config : Config) (context : ChatContext)
    {question : UserMessage} (alone : context.messages = [.user question])
    (first : AssistantMessage) (fix : String) (old : Option Members) (w : World σ) :
    Questioned question w (correct c config context first fix old w).2 := by
  have puts (reply : Except GatewayError AssistantMessage) :
      Puts question ⟨.extractThink, { context with
        messages := context.messages ++ [.assistant first, .userText fix] }, reply⟩ :=
    .corrected _ first fix rfl (by rw [alone]; rfl)
  unfold correct
  dsimp only
  split
  next asked =>
    have questioned := questioned_ask asked (puts _)
    exact questioned
  next asked =>
    have questioned := questioned_ask asked (puts _)
    split
    · exact questioned
    · exact questioned

theorem analyze_questioned (c : Collaborators σ) (config : Config) (function : FunctionId)
    (body : String) (callees : List FunctionId) (sink : FunctionId)
    (attachment : Option Attachment) (w : World σ) :
    Questioned (question function body callees sink attachment) w
      (analyze c config function body callees sink attachment w).2 := by
  unfold analyze
  dsimp only
  split
  next asked =>
    have questioned := questioned_ask asked (.asked _ rfl rfl)
    exact questioned
  next first after asked =>
    have questioned := questioned_ask asked (.asked _ rfl rfl)
    cases fix? config.maxKeyCodeLines (Reply.members first.text) with
    | none =>
      dsimp only
      split
      · exact questioned
      · exact questioned
    | some fix =>
      have onward := correct_questioned c config
        (.single none (question function body callees sink attachment)) rfl first fix
        (Reply.members first.text).toOption after
      dsimp only
      split
      · exact questioned.trans onward
      · exact questioned.trans onward

end Extraction

namespace Service

section Drawn
variable (picture : PathView → Option String → Attachment) (c : Collaborators σ)

theorem committed_drawing (s : Session) (text : String) (w : World σ) :
    (committed (c.drawing picture) s text w).2.1 =
      { s with lastArtifact := some (picture s.view none) } := rfl

theorem dispatch_drawing (config : Config) (s : Session) {action : Action} (w : World σ)
    (mutation : action.isMutation = true)
    (fine : (dispatch (c.drawing picture) config s action w).1.isError = false) :
    (dispatch (c.drawing picture) config s action w).2.1.lastArtifact =
      some (picture (dispatch (c.drawing picture) config s action w).2.1.view none) := by
  change (perform (c.drawing picture) config s action { w with notices := [] }).1.isError = _
    at fine
  change (perform (c.drawing picture) config s action { w with notices := [] }).2.1.lastArtifact =
    some (picture (perform (c.drawing picture) config s action
      { w with notices := [] }).2.1.view none)
  cases action with
  | addFunction suffix callers =>
    unfold perform extend at fine ⊢
    dsimp only at fine ⊢
    split at fine
    next => contradiction
    next plan prepared =>
      rw [ExtendPlan.apply_prepared prepared]
      exact congrArg Session.lastArtifact (committed_drawing picture c _ _ _)
  | compress start intermediates stop label =>
    unfold perform compress at fine ⊢
    dsimp only at fine ⊢
    split at fine
    next => contradiction
    next plan prepared =>
      rw [CompressPlan.apply_prepared s.graph start intermediates stop label plan prepared]
      exact congrArg Session.lastArtifact (committed_drawing picture c _ _ _)
  | update function updates =>
    unfold perform amend at fine ⊢
    dsimp only at fine ⊢
    split at fine
    next => contradiction
    next plan prepared =>
      exact congrArg Session.lastArtifact (committed_drawing picture c _ _ _)
  | inspect function => contradiction
  | listCallees function => contradiction

end Drawn

end Service

namespace Audit

section Calls
variable (c : Collaborators σ) (config : AuditConfig) (call : ToolCall) (s : Session) (w : World σ)

def Changes (call : ToolCall) (s : Session) (isError : Bool) : Prop :=
  priorResult? s.history (Action.describe call) = none ∧
    (∃ action, Action.ofCall call = .ok action ∧ action.isMutation = true) ∧ isError = false

variable {call s}

theorem Answer.same_of_not_changes {r : Resolver} {after : Session} {told : String × Bool}
    (answer : Answer r call s told after) (not : ¬Changes call s told.2) :
    after.view = s.view ∧ after.lastArtifact = s.lastArtifact := by
  cases answer with
  | repeated => exact ⟨rfl, rfl⟩
  | undecodable => exact ⟨rfl, rfl⟩
  | failed action outcome after new decoded ending error =>
    cases ending with
    | refused => exact ⟨rfl, rfl⟩
    | answered => contradiction
    | changed => contradiction
  | succeeded action outcome after new decoded ending fine =>
    cases ending with
    | refused => exact ⟨rfl, rfl⟩
    | answered => exact ⟨rfl, rfl⟩
    | changed text graph annotations artifact change =>
      have mutation : action.isMutation = true := by cases change <;> rfl
      exact absurd ⟨new, ⟨action, decoded, mutation⟩, rfl⟩ not

theorem respond_drawing {picture : PathView → Option String → Attachment}
    (changes : Changes call s (respond (c.drawing picture) config call s w).1.2) :
    (respond (c.drawing picture) config call s w).2.1.lastArtifact =
      some (picture (respond (c.drawing picture) config call s w).2.1.view none) := by
  obtain ⟨new, ⟨action, decoded, mutation⟩, fine⟩ := changes
  have drawn := Service.dispatch_drawing picture c config.service s w mutation
  unfold respond at fine ⊢
  simp only [new] at fine ⊢
  unfold execute at fine ⊢
  simp only [decoded] at fine ⊢
  generalize Service.dispatch (c.drawing picture) config.service s action w = done
    at drawn fine ⊢
  obtain ⟨outcome, after, later⟩ := done
  dsimp only at drawn fine ⊢
  cases status : outcome.isError with
  | true => simp [status] at fine
  | false =>
    simp only [Bool.false_eq_true, if_false]
    exact drawn status

end Calls

def Commits (a b : Audit) : Prop :=
  ∃ call calls text, a.phase = .acting (call :: calls) ∧ Changes call a.session false ∧
    b.session.history = a.session.history ++ [.toolResult ⟨call.id, text, false⟩]

def Proposes (a : Audit) : Prop := ∃ text, a.phase = .proposing text

/-- What is remarked under a drawing at moment `n`: what the judgment says whose verification
started last, and nothing once a change has been made since. -/
inductive InForce (along : Nat → Audit) (n : Nat) : Option String → Prop
  | judged (m : Nat) (text : String) (early : m < n) (starts : (along m).phase = .proposing text)
      (last : ∀ k, m < k → k < n → ¬Proposes (along k) ∧ ¬Commits (along k) (along (k + 1))) :
      InForce along n (some (Reply.remark text))
  | plain (since : ∀ m < n, Proposes (along m) →
        ∃ k, m < k ∧ k < n ∧ Commits (along k) (along (k + 1))) :
      InForce along n none

section InForce
variable {along : Nat → Audit} {n : Nat}

theorem inForce_unjudged (unjudged : ∀ m < n, ¬Proposes (along m)) : InForce along n none :=
  .plain fun m early proposes => absurd proposes (unjudged m early)

theorem inForce_presented {text : String} (starts : (along n).phase = .proposing text) :
    InForce along (n + 1) (some (Reply.remark text)) := by
  refine .judged n text (Nat.lt_succ_self n) starts ?_
  intro k after before
  omega

theorem inForce_committed (commits : Commits (along n) (along (n + 1))) :
    InForce along (n + 1) none := by
  refine .plain fun m early proposes => ⟨n, ?_, Nat.lt_succ_self n, commits⟩
  refine Nat.lt_of_le_of_ne (Nat.lt_succ_iff.mp early) ?_
  rintro rfl
  obtain ⟨text, phase⟩ := proposes
  obtain ⟨call, calls, -, acting, -⟩ := commits
  exact absurd (phase.symm.trans acting) nofun

theorem InForce.onward {remark : Option String} (holds : InForce along n remark)
    (idle : ¬Proposes (along n)) (quiet : ¬Commits (along n) (along (n + 1))) :
    InForce along (n + 1) remark := by
  cases holds with
  | judged m text early starts last =>
    refine .judged m text (Nat.lt_succ_of_lt early) starts fun k after before => ?_
    rcases Nat.lt_succ_iff_lt_or_eq.mp before with inside | rfl
    · exact last k after inside
    · exact ⟨idle, quiet⟩
  | plain since =>
    refine .plain fun m early proposes => ?_
    rcases Nat.lt_succ_iff_lt_or_eq.mp early with inside | rfl
    · obtain ⟨k, after, before, commits⟩ := since m inside proposes
      exact ⟨k, after, Nat.lt_succ_of_lt before, commits⟩
    · exact absurd proposes idle

end InForce

/-- The drawing at hand shows the session as it is, with the remark that is in force. -/
def Drawn (picture : PathView → Option String → Attachment) (along : Nat → Audit) (n : Nat) :
    Prop :=
  ∃ remark, InForce along n remark ∧
    (along n).session.lastArtifact = some (picture (along n).session.view remark)

def Fresh (picture : PathView → Option String → Attachment) (along : Nat → Audit) (n : Nat) :
    Prop :=
  match (along n).phase with
  | .annotating _ | .drawing => ∀ m < n, ¬Proposes (along m)
  | .concluding _ | .finished _ => True
  | .reasoning | .acting _ | .proposing _ | .verifying _ _ => Drawn picture along n

section Fresh
variable {picture : PathView → Option String → Attachment} {along : Nat → Audit} {n : Nat}

theorem Drawn.onward (drawn : Drawn picture along n) (idle : ¬Proposes (along n))
    (quiet : ¬Commits (along n) (along (n + 1)))
    (view : (along (n + 1)).session.view = (along n).session.view)
    (artifact : (along (n + 1)).session.lastArtifact = (along n).session.lastArtifact) :
    Drawn picture along (n + 1) := by
  obtain ⟨remark, inForce, shown⟩ := drawn
  refine ⟨remark, inForce.onward idle quiet, ?_⟩
  rw [artifact, view, shown]

theorem drawOrWarn_drawing (c : Collaborators σ) (s : Session) (remark : Option String)
    (complaint : String) (w : World σ) :
    (drawOrWarn (c.drawing picture) s remark complaint w).1 =
      { s with lastArtifact := some (picture s.view remark) } := rfl

theorem step_drawing (c : Collaborators σ) (config : AuditConfig) {a : Audit} (w : World σ)
    (phase : a.phase = .drawing) :
    (step (c.drawing picture) config a w).1 =
      ⟨{ a.session with lastArtifact := some (picture a.session.view none) }, a.steps,
        .reasoning⟩ := by
  rw [step_fst]
  simp only [advance, phase, drawOrWarn_drawing]

theorem step_presents (c : Collaborators σ) (config : AuditConfig) {a : Audit} (w : World σ)
    {text : String} (phase : a.phase = .proposing text) :
    (step (c.drawing picture) config a w).1 =
      ⟨{ a.session with lastArtifact := some (picture a.session.view (some (Reply.remark text))) },
        a.steps, .verifying text (Reply.remark text)⟩ := by
  rw [step_fst]
  simp only [advance, phase, drawOrWarn_drawing]

theorem step_acts (c : Collaborators σ) (config : AuditConfig) {a : Audit} (w : World σ)
    {call : ToolCall} {calls : List ToolCall} (phase : a.phase = .acting (call :: calls)) :
    let answered := respond c config call a.session { w with notices := [] }
    (step c config a w).1 =
        ⟨{ answered.2.1 with history := answered.2.1.history ++
          [.toolResult ⟨call.id, answered.1.1, answered.1.2⟩] }, a.steps, .acting calls⟩ ∧
      (step c config a w).2.exchanges = answered.2.2.exchanges := by
  constructor
  · rw [step_fst]
    simp only [advance, phase, act]
  · simp only [step, World.under, advance, phase, act, exchanges_record]

theorem Drawn.acts (c : Collaborators σ) (config : AuditConfig) (w : World σ)
    (stepped : along (n + 1) = (step (c.drawing picture) config (along n) w).1)
    {call : ToolCall} {calls : List ToolCall} (phase : (along n).phase = .acting (call :: calls))
    (drawn : Drawn picture along n) : Drawn picture along (n + 1) := by
  let answered := respond (c.drawing picture) config call (along n).session { w with notices := [] }
  have acted : along (n + 1) = _ :=
    stepped.trans (step_acts (c.drawing picture) config w phase).1
  have answer : Answer c.resolver call (along n).session answered.1 answered.2.1 :=
    (respond_answer (c.drawing picture) config call (along n).session { w with notices := [] }).1
  have history : (along (n + 1)).session.history = (along n).session.history ++
      [.toolResult ⟨call.id, answered.1.1, answered.1.2⟩] := by
    rw [acted, answer.keeps.1]
  by_cases changes : Changes call (along n).session answered.1.2
  · have fine : answered.1.2 = false := changes.2.2
    have commits : Commits (along n) (along (n + 1)) :=
      ⟨call, calls, answered.1.1, phase, fine ▸ changes, fine ▸ history⟩
    refine ⟨none, inForce_committed commits, ?_⟩
    rw [acted]
    exact respond_drawing c config { w with notices := [] } changes
  · have same := answer.same_of_not_changes changes
    refine drawn.onward ?_ ?_ ?_ ?_
    · rintro ⟨text, proposing⟩
      exact absurd (phase.symm.trans proposing) nofun
    · rintro ⟨other, others, text, acting, asked, told⟩
      have first : call = other := by
        have calls := phase.symm.trans acting
        simp only [Phase.acting.injEq, List.cons.injEq] at calls
        exact calls.1
      subst first
      have result := List.append_cancel_left (history.symm.trans told)
      simp only [List.cons.injEq, Message.toolResult.injEq, ToolResult.mk.injEq, and_true,
        true_and] at result
      exact changes (result.2 ▸ asked)
    · rw [acted]
      exact same.1
    · rw [acted]
      exact same.2

theorem not_commits {a b : Audit} (idle : ∀ call calls, a.phase ≠ .acting (call :: calls)) :
    ¬Commits a b := by
  rintro ⟨call, calls, text, acting, -⟩
  exact idle call calls acting

theorem unjudged_onward (unjudged : ∀ m < n, ¬Proposes (along m)) (idle : ¬Proposes (along n)) :
    ∀ m < n + 1, ¬Proposes (along m) := by
  intro m early
  rcases Nat.lt_succ_iff_lt_or_eq.mp early with inside | rfl
  · exact unjudged m inside
  · exact idle

theorem Fresh.next (c : Collaborators σ) (config : AuditConfig) (w : World σ)
    (stepped : along (n + 1) = (step (c.drawing picture) config (along n) w).1)
    (fresh : Fresh picture along n) : Fresh picture along (n + 1) := by
  cases status : (along n).result? with
  | some result =>
    rw [step_finished (c.drawing picture) config status] at stepped
    rw [Fresh, stepped, phase_of_result? status]
    trivial
  | none =>
    obtain ⟨made, move, -⟩ := step_moves (c.drawing picture) config (along n) w status
    rw [← stepped] at move
    unfold Fresh at fresh ⊢
    -- The steps that do not draw and make no change pass the drawing on with all that it shows.
    have onward (idle : ¬Proposes (along n)) (calm : ∀ call calls, (along n).phase ≠
        .acting (call :: calls)) (drawn : Drawn picture along n)
        (view : (along (n + 1)).session.view = (along n).session.view)
        (artifact : (along (n + 1)).session.lastArtifact = (along n).session.lastArtifact) :
        Drawn picture along (n + 1) := drawn.onward idle (not_commits calm) view artifact
    have acts {call : ToolCall} {calls : List ToolCall}
        (phase : (along n).phase = .acting (call :: calls)) (drawn : Drawn picture along n) :
        Drawn picture along (n + 1) := drawn.acts c config w stepped phase
    have draws (phase : (along n).phase = .drawing) (unjudged : ∀ m < n, ¬Proposes (along m)) :
        Drawn picture along (n + 1) := by
      refine ⟨none, inForce_unjudged (unjudged_onward unjudged ?_), ?_⟩
      · rintro ⟨text, proposing⟩
        exact absurd (phase.symm.trans proposing) nofun
      · rw [stepped, step_drawing c config w phase]
        rfl
    have presents {text : String} (phase : (along n).phase = .proposing text) :
        Drawn picture along (n + 1) := by
      refine ⟨some (Reply.remark text), inForce_presented phase, ?_⟩
      rw [stepped, step_presents c config w phase]
      rfl
    have waits (idle : ¬Proposes (along n)) (unjudged : ∀ m < n, ¬Proposes (along m)) :
        ∀ m < n + 1, ¬Proposes (along m) := unjudged_onward unjudged idle
    generalize along n = a at *
    generalize along (n + 1) = b at *
    cases move with
    | annotated s k => exact waits nofun fresh
    | annotate s k node nodes annotations made findings => exact waits nofun fresh
    | draw s k artifact => exact draws rfl fresh
    | exhaust s k spent => trivial
    | unanswered s k e left => trivial
    | propose s k reply left final => exact onward nofun nofun fresh rfl rfl
    | request s k reply left wants => exact onward nofun nofun fresh rfl rfl
    | acted s k => exact onward nofun nofun fresh rfl rfl
    | act s k call calls text isError after made answer findings => exact acts rfl fresh
    | present s k text artifact => exact presents rfl
    | unverified s k text remark e => trivial
    | reject s k text remark reply feedback rejected => exact onward nofun nofun fresh rfl rfl
    | accept s k text remark reply isVulnerable feedback artifact accepted => trivial
    | conclude s k text verdict decided => trivial
    | undecided s k text none => trivial

end Fresh

section Requests
variable {picture : PathView → Option String → Attachment} {along : Nat → Audit} {n : Nat}

end Requests

end Audit

end PathAudit
