import PathAudit.Proofs.Audit.Stages

/-! Sessions on their own. Where the collaborators' answers are functions of what they are asked, an
audit takes the same course whatever the world is like, and so whoever else is being audited. -/
namespace PathAudit

/-- What collaborators make of a request, when that depends on nothing else; no drawing fails. -/
structure Manner where
  resolver : Resolver
  answer : Role → ChatContext → ChatOptions → Reply
  picture : PathView → Option String → Attachment

variable {σ τ : Type}

structure Collaborators.Follows (c : Collaborators σ) (m : Manner) : Prop where
  resolver : c.resolver = m.resolver
  answer : ∀ role context options outside,
    (c.ask role context options outside).1 = m.answer role context options
  picture : ∀ path view remark outside,
    (c.draw path view remark outside).1 = .ok (m.picture view remark)

def Manner.alone (m : Manner) : Collaborators Unit where
  resolver := m.resolver
  model _ := ""
  ask role context options outside := (m.answer role context options, outside)
  draw _ view remark outside := (.ok (m.picture view remark), outside)

theorem Manner.follows_alone (m : Manner) : m.alone.Follows m :=
  ⟨rfl, fun _ _ _ _ => rfl, fun _ _ _ _ => rfl⟩

section Follows
variable {m : Manner} {c : Collaborators σ} {d : Collaborators τ} (left : c.Follows m)
  (right : d.Follows m)
include left

theorem Collaborators.Follows.ask (w : World σ) (role : Role) (context : ChatContext)
    (options : ChatOptions) :
    w.ask c role context options =
      ((m.answer role context options).complete, (w.ask c role context options).2) :=
  Prod.ext (congrArg Reply.complete (left.answer role context options w.outside)) rfl

namespace Service

theorem rerender_follows (s : Session) (remark : Option String) (w : World σ) :
    ∃ after, rerender c s remark w =
      (.ok (), { s with lastArtifact := some (m.picture s.view remark) }, after) := by
  have drawn : (w.draw c s.outputPath s.view remark).1 = .ok (m.picture s.view remark) :=
    left.picture s.outputPath s.view remark w.outside
  unfold rerender
  generalize w.draw c s.outputPath s.view remark = drawing at drawn ⊢
  obtain ⟨result, after⟩ := drawing
  cases drawn
  exact ⟨after, rfl⟩

theorem committed_follows (s : Session) (text : String) (w : World σ) :
    ∃ after, committed c s text w =
      (⟨text, false⟩, { s with lastArtifact := some (m.picture s.view none) }, after) := by
  obtain ⟨after, drawn⟩ := rerender_follows left s none w
  unfold committed
  rw [drawn]
  exact ⟨after, rfl⟩

end Service

theorem Audit.drawOrWarn_follows (s : Session) (remark : Option String) (complaint : String)
    (w : World σ) :
    ∃ after, drawOrWarn c s remark complaint w =
      ({ s with lastArtifact := some (m.picture s.view remark) }, after) := by
  obtain ⟨after, drawn⟩ := Service.rerender_follows left s remark w
  unfold drawOrWarn
  rw [drawn]
  exact ⟨after, rfl⟩

include right

namespace Extraction

theorem correct_alike (config : Config) (context : ChatContext) (first : AssistantMessage)
    (fix : String) (old : Option Members) (w : World σ) (v : World τ) :
    (correct c config context first fix old w).1 =
      (correct d config context first fix old v).1 := by
  unfold correct
  dsimp only
  rw [left.ask, right.ask]
  cases (m.answer .extractThink _ config.options).complete with
  | error e => rfl
  | ok reply =>
    dsimp only
    cases Reply.members reply.text with
    | error e => rfl
    | ok new => rfl

theorem analyze_alike (config : Config) (function body : String) (callees : List FunctionId)
    (sink : FunctionId) (attachment : Option Attachment) (w : World σ) (v : World τ) :
    (analyze c config function body callees sink attachment w).1 =
      (analyze d config function body callees sink attachment v).1 := by
  unfold analyze
  dsimp only
  rw [left.ask, right.ask]
  generalize (w.ask c _ _ _).2 = w
  generalize (v.ask d _ _ _).2 = v
  cases (m.answer .extract _ config.options).complete with
  | error e => rfl
  | ok first =>
    dsimp only
    cases fix? config.maxKeyCodeLines (Reply.members first.text) with
    | none =>
      dsimp only
      cases (Reply.members first.text).toOption with
      | none => rfl
      | some found => rfl
    | some fix =>
      have same := correct_alike left right config
        (.single none (question function body callees sink attachment)) first fix
        (Reply.members first.text).toOption w v
      dsimp only
      generalize correct c config _ first fix _ w = answer at same ⊢
      generalize correct d config _ first fix _ v = other at same ⊢
      obtain ⟨analysis, w⟩ := answer
      obtain ⟨_, v⟩ := other
      cases same
      cases analysis with
      | none => rfl
      | some found => rfl

end Extraction

def SameEnd {α : Type} (first : α × Session × World σ) (second : α × Session × World τ) : Prop :=
  first.1 = second.1 ∧ first.2.1 = second.2.1

omit left right in
theorem SameEnd.split {α : Type} {first : α × Session × World σ} {second : α × Session × World τ}
    (same : SameEnd first second) :
    ∃ a s w v, first = (a, s, w) ∧ second = (a, s, v) :=
  ⟨first.1, first.2.1, first.2.2, second.2.2, rfl,
    Prod.ext same.1.symm (Prod.ext same.2.symm rfl)⟩

namespace Service

theorem committed_alike (s : Session) (text : String) (w : World σ) (v : World τ) :
    SameEnd (committed c s text w) (committed d s text v) := by
  obtain ⟨after, told⟩ := committed_follows left s text w
  obtain ⟨other, again⟩ := committed_follows right s text v
  rw [told, again]
  exact ⟨rfl, rfl⟩

theorem extend_alike (config : Config) (s : Session) (suffix : String) (callers : List FunctionId)
    (w : World σ) (v : World τ) :
    SameEnd (extend c config s suffix callers w) (extend d config s suffix callers v) := by
  unfold extend
  dsimp only
  rw [left.resolver, right.resolver]
  cases ExtendPlan.prepare s.graph m.resolver suffix callers with
  | error e => exact ⟨rfl, rfl⟩
  | ok plan =>
    dsimp only
    have same := Extraction.analyze_alike left right config.extraction plan.resolved plan.body []
      s.sink s.lastArtifact (w.tell (ExtendPlan.notices s.graph m.resolver suffix callers))
      (v.tell (ExtendPlan.notices s.graph m.resolver suffix callers))
    rw [same]
    cases plan.apply s.graph with
    | error e => exact ⟨rfl, rfl⟩
    | ok graph => exact committed_alike left right _ _ _ _

theorem perform_alike (config : Config) (s : Session) (action : Action) (w : World σ)
    (v : World τ) : SameEnd (perform c config s action w) (perform d config s action v) := by
  cases action with
  | addFunction suffix callers => exact extend_alike left right config s suffix callers w v
  | compress start intermediates stop label =>
    simp only [perform, compress]
    cases CompressPlan.prepare s.graph start intermediates stop label with
    | error e => exact ⟨rfl, rfl⟩
    | ok plan =>
      dsimp only
      cases plan.apply s.graph with
      | error e => exact ⟨rfl, rfl⟩
      | ok graph => exact committed_alike left right _ _ _ _
  | update function updates =>
    simp only [perform, amend]
    cases AmendPlan.prepare s.graph function updates with
    | error e => exact ⟨rfl, rfl⟩
    | ok plan => exact committed_alike left right _ _ _ _
  | inspect function =>
    simp only [perform, inspect, left.resolver, right.resolver]
    exact ⟨rfl, rfl⟩
  | listCallees function =>
    simp only [perform, listCallees, left.resolver, right.resolver]
    exact ⟨rfl, rfl⟩

theorem dispatch_alike (config : Config) (s : Session) (action : Action) (w : World σ)
    (v : World τ) : SameEnd (dispatch c config s action w) (dispatch d config s action v) :=
  perform_alike left right config s action { w with notices := [] } { v with notices := [] }

end Service

namespace Audit

theorem annotate_alike (config : AuditConfig) (s : Session) (node : FunctionId) (w : World σ)
    (v : World τ) : (annotate c config s node w).1 = (annotate d config s node v).1 := by
  unfold annotate
  split
  next => rfl
  next =>
    dsimp only
    rw [left.resolver, right.resolver]
    cases m.resolver.body node with
    | error e => rfl
    | ok body =>
      exact congrArg (fun found => { s with annotations := s.annotations.merge node found })
        (Extraction.analyze_alike left right _ _ _ _ _ _ _ _)

theorem drawOrWarn_alike (s : Session) (remark : Option String) (complaint : String) (w : World σ)
    (v : World τ) :
    (drawOrWarn c s remark complaint w).1 = (drawOrWarn d s remark complaint v).1 := by
  obtain ⟨after, told⟩ := drawOrWarn_follows left s remark complaint w
  obtain ⟨other, again⟩ := drawOrWarn_follows right s remark complaint v
  rw [told, again]

theorem reason_alike (config : AuditConfig) (step : Nat) (s : Session) (w : World σ)
    (v : World τ) : SameEnd (reason c config step s w) (reason d config step s v) := by
  unfold reason
  dsimp only
  rw [left.ask, right.ask]
  cases (m.answer _ _ config.options).complete with
  | error e => exact ⟨rfl, rfl⟩
  | ok reply => exact ⟨rfl, rfl⟩

theorem execute_alike (config : AuditConfig) (call : ToolCall) (s : Session) (w : World σ)
    (v : World τ) : SameEnd (execute c config call s w) (execute d config call s v) := by
  unfold execute
  dsimp only
  cases Action.ofCall call with
  | error reason => exact ⟨rfl, rfl⟩
  | ok action =>
    obtain ⟨outcome, after, w, v, one, other⟩ :=
      (Service.dispatch_alike left right config.service s action w v).split
    dsimp only
    rw [one, other]
    dsimp only
    split
    next => exact ⟨rfl, rfl⟩
    next => exact ⟨rfl, rfl⟩

theorem act_alike (config : AuditConfig) (call : ToolCall) (s : Session) (w : World σ)
    (v : World τ) : (act c config call s w).1 = (act d config call s v).1 := by
  have same : SameEnd (respond c config call s w) (respond d config call s v) := by
    unfold respond
    cases priorResult? s.history (Action.describe call) with
    | some prior => exact ⟨rfl, rfl⟩
    | none => exact execute_alike left right config call s w v
  obtain ⟨told, after, w, v, one, other⟩ := same.split
  unfold act
  rw [one, other]

theorem judge_alike (config : AuditConfig) (text remark : String) (s : Session) (w : World σ)
    (v : World τ) :
    SameEnd (judge c config text remark s w) (judge d config text remark s v) := by
  unfold judge Gate.verify
  rw [left.ask, right.ask]
  cases (m.answer .verifier _ config.options).complete with
  | error e => exact ⟨rfl, rfl⟩
  | ok reply =>
    dsimp only [Except.map]
    cases Decision.ofReply reply.text with
    | rejected feedback => exact ⟨rfl, rfl⟩
    | accepted isVulnerable feedback => exact ⟨rfl, drawOrWarn_alike left right _ _ _ _ _⟩

theorem advance_alike (config : AuditConfig) (a : Audit) (w : World σ) (v : World τ) :
    (advance c config a w).1 = (advance d config a v).1 := by
  obtain ⟨s, n, phase⟩ := a
  cases phase with
  | annotating nodes =>
    cases nodes with
    | nil => rfl
    | cons node nodes =>
      have same := annotate_alike left right config s node w v
      simp only [advance, same]
  | drawing =>
    have same := drawOrWarn_alike left right s none "initial render failed" w v
    simp only [advance, same]
  | reasoning =>
    simp only [advance]
    split
    next => rfl
    next =>
      obtain ⟨result, after, w, v, one, other⟩ :=
        (reason_alike left right config (n + 1) s w v).split
      rw [one, other]
      cases result with
      | error e => rfl
      | ok reply =>
        dsimp only
        split
        next => rfl
        next => rfl
  | acting calls =>
    cases calls with
    | nil => rfl
    | cons call calls =>
      have same := act_alike left right config call s w v
      simp only [advance, same]
  | proposing text =>
    have same := drawOrWarn_alike left right s (some (Reply.remark text))
      "render of candidate judgment failed" w v
    simp only [advance, same]
  | verifying text remark =>
    obtain ⟨result, after, w, v, one, other⟩ :=
      (judge_alike left right config text remark s w v).split
    simp only [advance]
    rw [one, other]
    cases result with
    | error e => rfl
    | ok accepted =>
      cases accepted with
      | true => rfl
      | false => rfl
  | concluding text =>
    simp only [advance]
    split
    next => rfl
    next => rfl
  | finished result => rfl

theorem step_alike (config : AuditConfig) (a : Audit) (w : World σ) (v : World τ) :
    (step c config a w).1 = (step d config a v).1 :=
  advance_alike left right config a { w with notices := [] } { v with notices := [] }

theorem run_alike (config : AuditConfig) (a : Audit) (w : World σ) (v : World τ) :
    SameEnd (run c config a w) (run d config a v) := by
  induction a, w using run.induct c config generalizing v with
  | case1 a w result ended =>
    rw [run_of_ended c config ended, run_of_ended d config ended]
    exact ⟨rfl, rfl⟩
  | case2 a w running next after stepped ih =>
    have same := step_alike left right config a w v
    rw [run_of_running c config a w running, run_of_running d config a v running, ← same, stepped]
    exact ih (step d config a v).2

end Audit

end Follows

end PathAudit
