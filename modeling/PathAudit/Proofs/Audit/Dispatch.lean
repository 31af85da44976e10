import PathAudit.Audit.Service
import PathAudit.Proofs.Graph.Contraction
import PathAudit.Proofs.Graph.Extension

/-! What an action does to a session. An action that fails leaves the session as it was; one that
is carried out changes the graph and the findings as its plan says, and beyond them only the last
drawing. -/
namespace PathAudit.Service

inductive Change (r : Resolver) (s : Session) : Action → CallGraph → Annotations → Prop
  | extend (suffix : String) (callers : List FunctionId) (plan : ExtendPlan) (findings : Findings)
      (prepared : ExtendPlan.prepare s.graph r suffix callers = .ok plan) :
      Change r s (.addFunction suffix callers) ⟨s.graph.edges ++ plan.newEdges⟩
        (s.annotations.merge plan.resolved findings)
  | compress (start : FunctionId) (intermediates : List FunctionId) (stop : FunctionId)
      (label : String) (plan : CompressPlan)
      (prepared : CompressPlan.prepare s.graph start intermediates stop label = .ok plan) :
      Change r s (.compress start intermediates stop label)
        (CompressPlan.folded s.graph start intermediates stop label) s.annotations
  | amend (function : FunctionId) (updates : Dict String) (plan : AmendPlan)
      (prepared : AmendPlan.prepare s.graph function updates = .ok plan) :
      Change r s (.update function updates) s.graph (s.annotations.merge function plan.updates)

/-- How an action may end: it fails, having no change to make, it only looks, or it makes its
change. -/
inductive Ending (r : Resolver) (s : Session) (action : Action) : ActionOutcome → Session → Prop
  | refused (text : String)
      (barred : ∀ graph annotations, ¬Change r s action graph annotations) :
      Ending r s action ⟨text, true⟩ s
  | answered (text : String) (looks : action.isMutation = false) :
      Ending r s action ⟨text, false⟩ s
  | changed (text : String) (graph : CallGraph) (annotations : Annotations)
      (artifact : Option Attachment) (change : Change r s action graph annotations) :
      Ending r s action ⟨text, false⟩ { s with graph, annotations, lastArtifact := artifact }

variable {σ : Type}

theorem rerender_session (c : Collaborators σ) (s : Session) (remark : Option String)
    (w : World σ) :
    ∃ artifact, (rerender c s remark w).2.1 = { s with lastArtifact := artifact } := by
  unfold rerender
  split
  · exact ⟨_, rfl⟩
  · exact ⟨s.lastArtifact, rfl⟩

theorem committed_spec (c : Collaborators σ) (s : Session) (text : String) (w : World σ) :
    ∃ shown artifact, (committed c s text w).1 = ⟨shown, false⟩ ∧
      (committed c s text w).2.1 = { s with lastArtifact := artifact } := by
  obtain ⟨artifact, session⟩ := rerender_session c s none w
  unfold committed
  split
  next drawn =>
    rw [drawn] at session
    exact ⟨_, artifact, rfl, session⟩
  next failed =>
    rw [failed] at session
    exact ⟨_, artifact, rfl, session⟩

theorem amend_function {g : CallGraph} {function : FunctionId} {updates : Dict String}
    {plan : AmendPlan} (prepared : AmendPlan.prepare g function updates = .ok plan) :
    plan.function = function := by
  unfold AmendPlan.prepare at prepared
  dsimp only at prepared
  split at prepared
  next => contradiction
  next =>
  split at prepared
  next => contradiction
  next =>
  split at prepared
  next => contradiction
  next => cases Except.ok.inj prepared; rfl

theorem extend_ending (c : Collaborators σ) (config : Config) (s : Session) (suffix : String)
    (callers : List FunctionId) (w : World σ) :
    Ending c.resolver s (.addFunction suffix callers) (extend c config s suffix callers w).1
      (extend c config s suffix callers w).2.1 := by
  unfold extend
  dsimp only
  split
  next e failed =>
    refine .refused _ fun graph annotations change => ?_
    cases change
    next prepared => simp [failed] at prepared
  next plan prepared =>
    rw [ExtendPlan.apply_prepared prepared]
    obtain ⟨shown, artifact, outcome, session⟩ := committed_spec c _ _ _
    rw [outcome, session]
    exact .changed shown _ _ artifact (.extend suffix callers plan _ prepared)

theorem compress_ending (c : Collaborators σ) (s : Session) (start : FunctionId)
    (intermediates : List FunctionId) (stop : FunctionId) (label : String) (w : World σ) :
    Ending c.resolver s (.compress start intermediates stop label)
      (compress c s start intermediates stop label w).1
      (compress c s start intermediates stop label w).2.1 := by
  unfold compress
  split
  next e failed =>
    refine .refused _ fun graph annotations change => ?_
    cases change
    next prepared => simp [failed] at prepared
  next plan prepared =>
    rw [CompressPlan.apply_prepared s.graph start intermediates stop label plan prepared]
    obtain ⟨shown, artifact, outcome, session⟩ := committed_spec c _ _ _
    rw [outcome, session]
    exact .changed shown _ _ artifact (.compress start intermediates stop label plan prepared)

theorem amend_ending (c : Collaborators σ) (s : Session) (function : FunctionId)
    (updates : Dict String) (w : World σ) :
    Ending c.resolver s (.update function updates) (amend c s function updates w).1
      (amend c s function updates w).2.1 := by
  unfold amend
  split
  next e failed =>
    refine .refused _ fun graph annotations change => ?_
    cases change
    next prepared => simp [failed] at prepared
  next plan prepared =>
    obtain ⟨shown, artifact, outcome, session⟩ := committed_spec c _ _ _
    rw [outcome, session, AmendPlan.apply, amend_function prepared]
    exact .changed shown _ _ artifact (.amend function updates plan prepared)

theorem perform_ending (c : Collaborators σ) (config : Config) (s : Session) (action : Action)
    (w : World σ) :
    Ending c.resolver s action (perform c config s action w).1
      (perform c config s action w).2.1 := by
  cases action with
  | addFunction suffix callers => exact extend_ending c config s suffix callers w
  | compress start intermediates stop label =>
    exact compress_ending c s start intermediates stop label w
  | update function updates => exact amend_ending c s function updates w
  | inspect function =>
    show Ending c.resolver s _ (inspect c config function) s
    unfold inspect
    split
    · exact .answered _ rfl
    · exact .refused _ fun graph annotations change => nomatch change
  | listCallees function =>
    show Ending c.resolver s _ (listCallees c function) s
    unfold listCallees
    split
    · exact .answered _ rfl
    · exact .answered _ rfl
    · exact .refused _ fun graph annotations change => nomatch change

theorem dispatch_ending (c : Collaborators σ) (config : Config) (s : Session) (action : Action)
    (w : World σ) :
    Ending c.resolver s action (dispatch c config s action w).1
      (dispatch c config s action w).2.1 :=
  perform_ending c config s action { w with notices := [] }

theorem compress_carriedOut {σ : Type} (c : Collaborators σ) (config : Config) (s : Session)
    (start : FunctionId) (intermediates : List FunctionId) (stop : FunctionId) (label : String)
    (w : World σ) (plan : CompressPlan)
    (prepared : CompressPlan.prepare s.graph start intermediates stop label = .ok plan) :
    (dispatch c config s (.compress start intermediates stop label) w).1.isError = false ∧
      (dispatch c config s (.compress start intermediates stop label) w).2.1.graph =
        CompressPlan.folded s.graph start intermediates stop label := by
  have ending := dispatch_ending c config s (.compress start intermediates stop label) w
  generalize (dispatch c config s _ w).1 = outcome at ending ⊢
  generalize (dispatch c config s _ w).2.1 = after at ending ⊢
  cases ending with
  | refused text barred =>
    exact absurd (.compress start intermediates stop label plan prepared) (barred _ _)
  | answered text looks => contradiction
  | changed text graph annotations artifact change =>
    cases change
    exact ⟨rfl, rfl⟩

/-- The same outcome and the same graph and findings, texts and drawings apart. -/
def Agree (left right : ActionOutcome × Session × World σ) : Prop :=
  left.1.isError = right.1.isError ∧ left.2.1.graph = right.2.1.graph ∧
    left.2.1.annotations = right.2.1.annotations

private theorem committed_agree (c d : Collaborators σ) (s : Session) (text : String)
    (w : World σ) : Agree (committed c s text w) (committed d s text w) := by
  obtain ⟨_, _, outcome, session⟩ := committed_spec c s text w
  obtain ⟨_, _, otherOutcome, otherSession⟩ := committed_spec d s text w
  simp [Agree, outcome, session, otherOutcome, otherSession]

theorem dispatch_agree (c : Collaborators σ)
    (draw : String → PathView → Option String → σ → Except RenderError Attachment × σ)
    (config : Config) (s : Session) (action : Action) (w : World σ) :
    Agree (dispatch { c with draw } config s action w) (dispatch c config s action w) := by
  have same : Agree (perform { c with draw } config s action { w with notices := [] })
      (perform c config s action { w with notices := [] }) := by
    cases action with
    | addFunction suffix callers =>
      -- Up to the drawing both sides are the same computation.
      simp only [perform, extend]
      split
      next => exact ⟨rfl, rfl, rfl⟩
      next plan prepared =>
        rw [ExtendPlan.apply_prepared prepared]
        exact committed_agree { c with draw } c _ _ _
    | compress start intermediates stop label =>
      simp only [perform, compress]
      split
      next => exact ⟨rfl, rfl, rfl⟩
      next plan prepared =>
        rw [CompressPlan.apply_prepared s.graph start intermediates stop label plan prepared]
        exact committed_agree { c with draw } c _ _ _
    | update function updates =>
      simp only [perform, amend]
      split
      next => exact ⟨rfl, rfl, rfl⟩
      next plan prepared => exact committed_agree { c with draw } c _ _ _
    | inspect function => exact ⟨rfl, rfl, rfl⟩
    | listCallees function => exact ⟨rfl, rfl, rfl⟩
  exact same

def Spares (r : Resolver) (before after : Session) : Action → Prop
  | .inspect _ | .listCallees _ => after = before
  | .update function _ =>
    after.graph = before.graph ∧
      ∀ f, f ≠ function → after.annotations.get? f = before.annotations.get? f
  | .compress _ _ _ _ => after.annotations = before.annotations
  | .addFunction suffix callers =>
    ∃ plan, ExtendPlan.prepare before.graph r suffix callers = .ok plan ∧
      after.graph.edges = before.graph.edges ++ plan.newEdges ∧
      ∀ f, f ≠ plan.resolved → after.annotations.get? f = before.annotations.get? f

theorem Change.spares {r : Resolver} {s : Session} {action : Action} {graph : CallGraph}
    {annotations : Annotations} (change : Change r s action graph annotations)
    (artifact : Option Attachment) :
    Spares r s { s with graph, annotations, lastArtifact := artifact } action := by
  cases change with
  | extend suffix callers plan findings prepared =>
    refine ⟨plan, prepared, rfl, fun f other => ?_⟩
    exact Annotations.get?_merge_of_ne s.annotations plan.resolved f findings other
  | compress start intermediates stop label plan prepared => rfl
  | amend function updates plan prepared =>
    refine ⟨rfl, fun f other => ?_⟩
    exact Annotations.get?_merge_of_ne s.annotations function f plan.updates other

theorem spares_of_looks {r : Resolver} {s : Session} {action : Action}
    (looks : action.isMutation = false) : Spares r s s action := by
  cases action with
  | inspect function => rfl
  | listCallees function => rfl
  | _ => contradiction

/-- The parts of a session that no action touches. -/
def SameRest (before after : Session) : Prop :=
  after.history = before.history ∧ after.repeatCall = before.repeatCall ∧
    after.verdict = before.verdict ∧ after.key = before.key ∧ after.entry = before.entry ∧
    after.sink = before.sink ∧ after.outputPath = before.outputPath

theorem Ending.atomic {r : Resolver} {s after : Session} {action : Action}
    {outcome : ActionOutcome} (ending : Ending r s action outcome after) :
    (outcome.isError = true → after = s) ∧
      (outcome.isError = false → Spares r s after action ∧ SameRest s after) := by
  have same : SameRest s s := ⟨rfl, rfl, rfl, rfl, rfl, rfl, rfl⟩
  cases ending with
  | refused text barred =>
    refine ⟨fun _ => rfl, fun fine => ?_⟩
    contradiction
  | answered text looks => exact ⟨fun _ => rfl, fun _ => ⟨spares_of_looks looks, same⟩⟩
  | changed text graph annotations artifact change =>
    refine ⟨fun error => ?_, fun _ => ⟨change.spares artifact, same⟩⟩
    contradiction

/-- An action that fails changes nothing at all. One that is carried out spares what is not its
business and never touches the conversation, the verdict or what the session was made from; that
its drawing fails is no failure, and the change stays. -/
theorem dispatch_atomic (c : Collaborators σ) (config : Config) (s : Session) (action : Action)
    (w : World σ) :
    let done := dispatch c config s action w
    (done.1.isError = true → done.2.1 = s) ∧
    (done.1.isError = false →
      Spares c.resolver s done.2.1 action ∧ SameRest s done.2.1) ∧
    ∀ draw, Agree (dispatch { c with draw } config s action w) done := by
  intro done
  obtain ⟨untouched, spared⟩ := (dispatch_ending c config s action w).atomic
  exact ⟨untouched, spared, fun draw => dispatch_agree c draw config s action w⟩

def forlorn : Collaborators Unit where
  resolver := ({} : CodeBase).resolver
  model _ := ""
  ask _ _ _ outside := (.ok [], outside)
  draw _ _ _ outside := (.error (.graphviz "no drawings"), outside)

def threeCalls : Session where
  key := "a---d"
  entry := "a"
  sink := "d"
  graph := ⟨[.calls "a" "b", .calls "b" "c", .calls "c" "d"]⟩
  annotations := .empty
  outputPath := "out"

theorem dispatch_atomic_undrawn :
    let done := dispatch forlorn {} threeCalls (.compress "a" ["b", "c"] "d" "via b and c")
      { outside := () }
    done.1.isError = false ∧ done.2.1.graph.edges = [⟨"a", "d", "via b and c"⟩] ∧
      done.2.1.annotations = threeCalls.annotations := by
  have prepared : CompressPlan.prepare threeCalls.graph "a" ["b", "c"] "d" "via b and c" =
      .ok ⟨[("a", "b"), ("b", "c"), ("c", "d")], ⟨"a", "d", "via b and c"⟩⟩ := by cbv
  obtain ⟨carriedOut, graph⟩ :=
    compress_carriedOut forlorn {} threeCalls _ _ _ _ { outside := () } _ prepared
  have spares := (dispatch_atomic forlorn {} threeCalls _ _).2.1 carriedOut
  refine ⟨carriedOut, ?_, spares.1⟩
  rw [graph]
  cbv

end PathAudit.Service
