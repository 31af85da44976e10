import PathAudit.Graph.Function

/-! The part of a function's body that matters: up to the last line that calls something of
interest. -/
namespace PathAudit.Excerpt

def elision : String := "# ..."

/-- How a call to the function is written: the sink in full, others by their last part. -/
def callText (sink callee : FunctionId) : String :=
  (if callee = sink then sink else callee.lastSegment) ++ "("

def isCall (targets : List (List Char)) (line : List Char) : Bool :=
  targets.any fun target => Text.contains target line

def throughLastCall (targets : List (List Char)) (lines : List (List Char)) : List (List Char) :=
  (lines.reverse.dropWhile fun line => !isCall targets line).reverse

def ofBody (body : String) (callees : List FunctionId) (sink : FunctionId) : String :=
  let targets := callees.map fun callee => (callText sink callee).toList
  let lines := Text.splitOn '\n' body.toList
  let kept := throughLastCall targets lines
  if kept.isEmpty || kept.length == lines.length then body
  else String.ofList (Text.join ['\n'] kept) ++ "\n" ++ elision

end PathAudit.Excerpt
