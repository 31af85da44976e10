import PathAudit.Dict
import PathAudit.Graph.Function
import PathAudit.Notice

/-! The analysed code base as an audit sees it: bodies of functions and what they call. -/
namespace PathAudit

inductive ResolveError where
  | notFound (f : FunctionId)
  | backend (reason : String)
  deriving DecidableEq, Repr, Inhabited

def ResolveError.kind : ResolveError → String
  | .notFound _ => "not_found"
  | .backend _ => "backend"

def ResolveError.message : ResolveError → String
  | .notFound f => "function not found: " ++ f
  | .backend reason => "source lookup failed: " ++ reason

structure Resolver where
  body : FunctionId → Except ResolveError String
  callees : FunctionId → Except ResolveError (List FunctionId)
  notices : FunctionId → List Notice := fun _ => []

/-- A code base held in memory. Calls are listed in the order they were added, repeats included. -/
structure CodeBase where
  bodies : Dict String := .empty
  calls : List (FunctionId × FunctionId) := []
  deriving Repr

namespace CodeBase

def addFunction (c : CodeBase) (f : FunctionId) (body : String) : CodeBase :=
  { c with bodies := c.bodies.insert f body }

def addCall (c : CodeBase) (caller callee : FunctionId) : CodeBase :=
  { c with calls := c.calls ++ [(caller, callee)] }

def resolver (c : CodeBase) : Resolver where
  body f :=
    match c.bodies.get? f with
    | some body => .ok body
    | none => .error (.notFound f)
  callees f := .ok ((c.calls.filter (·.1 == f)).map (·.2))

end CodeBase

def Resolver.failing (r : Resolver) (bodies callees : List FunctionId) (reason : String) :
    Resolver where
  body f := if bodies.contains f then .error (.backend reason) else r.body f
  callees f := if callees.contains f then .error (.backend reason) else r.callees f
  notices f := if bodies.contains f then [] else r.notices f

end PathAudit
