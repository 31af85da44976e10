import PathAudit.Text.Basic

/-! Names of functions: dotted, fully qualified, compared as they are written. -/
namespace PathAudit

/-- A fully qualified name such as `pkg.module.func`; the code a module runs when it is loaded has
the last part `<module>`. -/
abbrev FunctionId := String

namespace FunctionId

def lastSegment (f : FunctionId) : String :=
  String.ofList (f.toList.reverse.takeWhile (· != '.')).reverse

/-- Whether the name ends in a dot followed by the non-empty `tail`. -/
def hasTail (f : FunctionId) (tail : String) : Bool :=
  !tail.isEmpty && endsWith ("." ++ tail) f

def moduleTail : String := ".<module>"

def isModuleLevel (f : FunctionId) : Bool := endsWith moduleTail f

def listed (names : List FunctionId) : String := joined ", " names

def chained (names : List FunctionId) : String := joined " -> " names

end FunctionId

end PathAudit
