import PathAudit.Chat.Context
import PathAudit.Drawing.Dot
import PathAudit.Files
import PathAudit.Graph.Record
import PathAudit.Notice

/-! The state of one audit. A session owns its graph and findings; nothing in it is shared. -/
namespace PathAudit

structure Verdict where
  isVulnerable : Bool
  narrative : String
  feedback : String
  deriving DecidableEq, Repr, Inhabited

namespace Verdict

def toJson (v : Verdict) : Json :=
  .object [("confidence_narrative", .string v.narrative),
    ("double_check_feedback", .string v.feedback), ("is_vulnerable", .bool v.isVulnerable)]

private structure Draft where
  isVulnerable : Option Bool := none
  narrative : Option String := none
  feedback : Option String := none

private def fill : Decoder.Fill Draft := fun origin name raw draft =>
  match name with
  | "is_vulnerable" => do .ok { draft with isVulnerable := some (← Decoder.bool origin raw) }
  | "confidence_narrative" => do .ok { draft with narrative := some (← Decoder.text origin raw) }
  | _ => do .ok { draft with feedback := some (← Decoder.text origin raw) }

def decoder : Decoder Verdict :=
  Decoder.fields "struct Verdict"
    [⟨"is_vulnerable", [], false⟩, ⟨"confidence_narrative", [], false⟩,
      ⟨"double_check_feedback", [], false⟩] {} fill fun draft => do
      .ok ⟨← Decoder.require "is_vulnerable" draft.isVulnerable,
        ← Decoder.require "confidence_narrative" draft.narrative,
        ← Decoder.require "double_check_feedback" draft.feedback⟩

end Verdict

structure Session where
  key : String
  entry : FunctionId
  sink : FunctionId
  graph : CallGraph
  annotations : Annotations
  history : List Message := []
  /-- Set by a repeated or failed action; the next step goes to the stronger reasoner. -/
  repeatCall : Bool := false
  verdict : Option Verdict := none
  outputPath : String
  lastArtifact : Option Attachment := none

namespace Session

def ofRecord (r : PathRecord) (outputDir : String) : Session where
  key := r.key
  entry := r.entry
  sink := r.sink
  graph := r.graph
  annotations := r.annotations
  outputPath := joinPath outputDir (Dot.fileName r.graph.size r.key)

/-- The ends of the path that are no nodes of its graph. -/
def openingNotices (r : PathRecord) : List Notice :=
  [("entry", r.entry), ("sink", r.sink)].filterMap fun (role, f) =>
    if r.graph.contains f then none
    else
      some ((Notice.warn "aegis_engine::session" "path endpoint is not a graph node"
        [("role", .string role), Notice.shown "function" f]).under r.key)

def view (s : Session) : PathView := ⟨s.entry, s.sink, s.graph, s.annotations⟩

def isDone (s : Session) : Bool := s.verdict.isSome

/-- Writes the graph, the findings and the verdict back into the record. -/
def applyTo (s : Session) (r : PathRecord) : PathRecord :=
  let r := { r with callGraph := s.graph.edges, annotations := s.annotations }
  match s.verdict with
  | none => r
  | some v =>
    { r with
      doubleCheck := some v.feedback
      conclusion := some v.isVulnerable
      auditResult := some v.narrative }

end Session

end PathAudit
