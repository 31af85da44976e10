import PathAudit.Json.Decode
import PathAudit.Graph.Function

/-! The call graph of one path: an ordered list of labelled edges. A function is a node when some
edge mentions it. The operations never add a second edge between the same caller and callee. -/
namespace PathAudit

structure CallEdge where
  caller : FunctionId
  callee : FunctionId
  label : String
  deriving DecidableEq, Repr, Inhabited

namespace CallEdge

def plainLabel : String := "calls"

def calls (caller callee : FunctionId) : CallEdge := ⟨caller, callee, plainLabel⟩

def connects (e : CallEdge) (caller callee : FunctionId) : Bool :=
  e.caller == caller && e.callee == callee

def pair (e : CallEdge) : FunctionId × FunctionId := (e.caller, e.callee)

def toJson (e : CallEdge) : Json :=
  .object [("caller", .string e.caller), ("callee", .string e.callee), ("label", .string e.label)]

private structure Draft where
  caller : Option String := none
  callee : Option String := none
  label : Option String := none

private def fill : Decoder.Fill Draft := fun origin name raw draft => do
  let text ← Decoder.text origin raw
  match name with
  | "caller" => .ok { draft with caller := some text }
  | "callee" => .ok { draft with callee := some text }
  | _ => .ok { draft with label := some text }

private def finish (draft : Draft) : Except DecodeError CallEdge := do
  let caller ← Decoder.require "caller" draft.caller
  let callee ← Decoder.require "callee" draft.callee
  .ok ⟨caller, callee, draft.label.getD plainLabel⟩

def decoder : Decoder CallEdge :=
  Decoder.fields "struct CallEdge"
    [⟨"caller", [], false⟩, ⟨"callee", [], false⟩, ⟨"label", [], true⟩] {} fill finish

theorem decoder_toJson (e : CallEdge) (origin : Origin) :
    decoder origin (.ofJson e.toJson) = .ok e := by
  rfl

end CallEdge

structure CallGraph where
  edges : List CallEdge
  deriving DecidableEq, Repr, Inhabited

namespace CallGraph

def empty : CallGraph := ⟨[]⟩

def hasEdge (g : CallGraph) (caller callee : FunctionId) : Bool :=
  g.edges.any (·.connects caller callee)

/-- Of repeated pairs the first edge is kept. -/
def ofEdges (edges : List CallEdge) : CallGraph :=
  edges.foldl
    (fun g e => if g.hasEdge e.caller e.callee then g else ⟨g.edges ++ [e]⟩) empty

def size (g : CallGraph) : Nat := g.edges.length

def contains (g : CallGraph) (f : FunctionId) : Bool :=
  g.edges.any fun e => e.caller == f || e.callee == f

def nodes (g : CallGraph) : List FunctionId :=
  g.edges.foldl
    (fun seen e =>
      let seen := if seen.contains e.caller then seen else seen ++ [e.caller]
      if seen.contains e.callee then seen else seen ++ [e.callee]) []

def sortedNodes (g : CallGraph) : List FunctionId :=
  (sortMembers (g.nodes.map fun f => (f, ()))).map (·.1)

def callees (g : CallGraph) (f : FunctionId) : List FunctionId :=
  (g.edges.filter (·.caller == f)).map (·.callee)

def callers (g : CallGraph) (f : FunctionId) : List FunctionId :=
  (g.edges.filter (·.callee == f)).map (·.caller)

/-- The graph with one more edge; `none` when the pair is already connected. -/
def addEdge? (g : CallGraph) (e : CallEdge) : Option CallGraph :=
  if g.hasEdge e.caller e.callee then none else some ⟨g.edges ++ [e]⟩

def removeEdges (g : CallGraph) (pairs : List (FunctionId × FunctionId)) : CallGraph :=
  ⟨g.edges.filter fun e => !pairs.any fun (caller, callee) => e.connects caller callee⟩

def toJson (g : CallGraph) : Json := .array (g.edges.map CallEdge.toJson)

end CallGraph

end PathAudit
