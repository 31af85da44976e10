import PathAudit.Graph.Function

/-! Why a change of the graph or its findings is refused. Nothing changes when one is given. -/
namespace PathAudit

inductive ErrorCategory where
  | validation
  | resolution
  deriving DecidableEq, Repr, Inhabited

inductive MutationError where
  /-- Some callers are not nodes; no callers at all when the list is empty. -/
  | unknownCaller (missing : List FunctionId)
  | unresolvedFunction (suffix : String) (callers : List FunctionId)
  | noSuchFunction (function : FunctionId)
  | alreadyPresent (function : FunctionId)
  | unknownFunction (missing : List FunctionId)
  | brokenChain (caller callee : FunctionId)
  | notLinear (function : FunctionId) (callers callees : List FunctionId)
  | invalidUpdate (reason : String) (invalidKeys : List String)
  | emptyIntermediates
  | duplicateEdge (caller callee : FunctionId)
  deriving DecidableEq, Repr, Inhabited

namespace MutationError

def code : MutationError → String
  | .unknownCaller _ => "UNKNOWN_CALLER"
  | .unresolvedFunction _ _ => "UNRESOLVED_FUNCTION"
  | .noSuchFunction _ => "NO_SUCH_FUNCTION"
  | .alreadyPresent _ => "ALREADY_PRESENT"
  | .unknownFunction _ => "UNKNOWN_FUNCTION"
  | .brokenChain _ _ => "BROKEN_CHAIN"
  | .notLinear _ _ _ => "NOT_LINEAR"
  | .invalidUpdate _ _ => "INVALID_UPDATE"
  | .emptyIntermediates => "EMPTY_INTERMEDIATES"
  | .duplicateEdge _ _ => "DUPLICATE_EDGE"

def category : MutationError → ErrorCategory
  | .unresolvedFunction _ _ | .noSuchFunction _ => .resolution
  | _ => .validation

open FunctionId in
def message : MutationError → String
  | .unknownCaller [] => "callers must not be empty"
  | .unknownCaller missing => "callers not in graph: " ++ listed missing
  | .unresolvedFunction suffix callers =>
    "no callee of " ++ listed callers ++ " ends with ." ++ suffix
  | .noSuchFunction f => f ++ " has no retrievable source body"
  | .alreadyPresent f => f ++ " is already in the graph"
  | .unknownFunction missing => "functions not in graph: " ++ listed missing
  | .brokenChain caller callee => "chain is broken: no edge " ++ caller ++ " -> " ++ callee
  | .notLinear f callers callees =>
    f ++ " is not a linear link: callers [" ++ listed callers ++ "], callees [" ++ listed callees ++
      "]"
  | .invalidUpdate reason _ => "invalid update: " ++ reason
  | .emptyIntermediates => "intermediate_functions must not be empty"
  | .duplicateEdge caller callee => "edge " ++ caller ++ " -> " ++ callee ++ " already exists"

def report (e : MutationError) : String := e.code ++ ": " ++ e.message

end MutationError

end PathAudit
