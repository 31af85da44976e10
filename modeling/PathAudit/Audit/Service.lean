import PathAudit.Audit.Action
import PathAudit.Audit.Extraction
import PathAudit.Graph.Mutation
import PathAudit.Text.Truncated

/-! Actions carried out on a session. A change is checked in full before anything is committed; an
action that fails leaves the session as it was. -/
namespace PathAudit

/-- What an action came to, as it is told to the reasoner. -/
structure ActionOutcome where
  content : String
  isError : Bool
  deriving DecidableEq, Repr, Inhabited

namespace Service

def target : String := "aegis_engine::service"

def defaultMaxInspect : Nat := 32 * 1024

structure Config where
  extraction : Extraction.Config := {}
  maxInspectBytes : Nat := defaultMaxInspect

variable {σ : Type}

/-- Draws the session's graph; the drawing goes along with the next request. -/
def rerender (c : Collaborators σ) (s : Session) (remark : Option String) (w : World σ) :
    Except RenderError Unit × Session × World σ :=
  match w.draw c s.outputPath s.view remark with
  | (.ok attachment, w) => (.ok (), { s with lastArtifact := some attachment }, w)
  | (.error e, w) => (.error e, s, w)

def committed (c : Collaborators σ) (s : Session) (text : String) (w : World σ) :
    ActionOutcome × Session × World σ :=
  match rerender c s none w with
  | (.ok (), s, w) => (⟨text, false⟩, s, w)
  | (.error e, s, w) =>
    (⟨text ++ "\nWarning: the graph could not be re-rendered: " ++ e.message, false⟩, s,
      w.tell [(Notice.warn target "render after mutation failed"
        [Notice.shown "error" e.message]).under s.key])

def rejected (e : MutationError) (s : Session) (w : World σ) : ActionOutcome × Session × World σ :=
  (⟨e.report, true⟩, s,
    w.tell [.warn target "mutation rejected"
      [("code", .string e.code), Notice.shown "error" e.message]])

def addedText (p : ExtendPlan) (suffix : String) (callers : List FunctionId) : String :=
  "Successfully added function " ++ p.resolved ++ " (matched from '" ++ suffix ++
    "') to the call graph with callers: " ++ FunctionId.listed callers ++
    if p.isAmbiguous then
      "\nWarning: '" ++ suffix ++ "' matched several functions (" ++
        FunctionId.listed p.candidates ++ "); picked " ++ p.resolved ++
        " as the lexicographically smallest."
    else ""

def extend (c : Collaborators σ) (config : Config) (s : Session) (suffix : String)
    (callers : List FunctionId) (w : World σ) : ActionOutcome × Session × World σ :=
  let w := w.tell (ExtendPlan.notices s.graph c.resolver suffix callers)
  match ExtendPlan.prepare s.graph c.resolver suffix callers with
  | .error e => rejected e s w
  | .ok plan =>
    let (findings, w) :=
      Extraction.analyze c config.extraction plan.resolved plan.body [] s.sink s.lastArtifact w
    match plan.apply s.graph with
    | .error e => rejected e s w
    | .ok graph =>
      let s := { s with graph, annotations := s.annotations.merge plan.resolved findings }
      let w := if plan.isAmbiguous then
          w.tell [.warn target "ambiguous function suffix"
            [("suffix", .string suffix), ("candidates", .nat plan.candidates.length)]]
        else w
      committed c s (addedText plan suffix callers) w

def compressedText (start : FunctionId) (intermediates : List FunctionId) (stop : FunctionId)
    (label : String) : String :=
  "Successfully compressed call chain: " ++ start ++ " -> [" ++ FunctionId.chained intermediates ++
    "] -> " ++ stop ++ " has been compressed to " ++ start ++ " -> " ++ stop ++
    ", new edge label: '" ++ label ++ "'"

def compress (c : Collaborators σ) (s : Session) (start : FunctionId)
    (intermediates : List FunctionId) (stop : FunctionId) (label : String) (w : World σ) :
    ActionOutcome × Session × World σ :=
  match CompressPlan.prepare s.graph start intermediates stop label with
  | .error e => rejected e s w
  | .ok plan =>
    match plan.apply s.graph with
    | .error e => rejected e s w
    | .ok graph =>
      committed c { s with graph }
        (compressedText start intermediates stop plan.replacement.label) w

def amend (c : Collaborators σ) (s : Session) (function : FunctionId) (updates : Dict String)
    (w : World σ) : ActionOutcome × Session × World σ :=
  match AmendPlan.prepare s.graph function updates with
  | .error e => rejected e s w
  | .ok plan =>
    let keys := joined ", " (plan.updates.kinds.map FindingKind.name)
    committed c { s with annotations := plan.apply s.annotations }
      ("Successfully updated function " ++ function ++ ": " ++ keys) w

def inspect (c : Collaborators σ) (config : Config) (function : FunctionId) : ActionOutcome :=
  match c.resolver.body function with
  | .ok body => ⟨truncated config.maxInspectBytes body, false⟩
  | .error e => ⟨e.message, true⟩

def listCallees (c : Collaborators σ) (function : FunctionId) : ActionOutcome :=
  match c.resolver.callees function with
  | .ok [] => ⟨function ++ " calls no known functions", false⟩
  | .ok callees => ⟨joined "\n" callees, false⟩
  | .error e => ⟨e.message, true⟩

def perform (c : Collaborators σ) (config : Config) (s : Session) (action : Action) (w : World σ) :
    ActionOutcome × Session × World σ :=
  match action with
  | .addFunction function callers => extend c config s function callers w
  | .compress start intermediates stop label => compress c s start intermediates stop label w
  | .update function updates => amend c s function updates w
  | .inspect function => (inspect c config function, s, w.tell (c.resolver.notices function))
  | .listCallees function => (listCallees c function, s, w)

end Service

/-- What happens in `f` is noted under the path `key`. -/
def World.under {σ α : Type} (key : String) (f : World σ → α × World σ) (w : World σ) :
    α × World σ :=
  let (a, after) := f { w with notices := [] }
  (a, { after with notices := w.notices ++ after.notices.map (·.under key) })

def Service.dispatch {σ : Type} (c : Collaborators σ) (config : Service.Config) (s : Session)
    (action : Action) (w : World σ) : ActionOutcome × Session × World σ :=
  let ((outcome, s), w) := w.under s.key fun w =>
    let (outcome, s, w) := Service.perform c config s action w
    ((outcome, s), w)
  (outcome, s, w)

end PathAudit
