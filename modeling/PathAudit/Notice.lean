import PathAudit.Json.Value
import PathAudit.Text.Basic

/-! Notices: the warnings and errors that running parts leave behind. A notice names the part it
comes from, a message, some fields, and the audited path if one is known; parts that do not know
the path leave it open and whoever calls them fills it in. -/
namespace PathAudit

inductive Level where
  | error
  | warn
  | info
  | debug
  | trace
  deriving DecidableEq, Repr, Inhabited

def Level.name : Level → String
  | .error => "ERROR"
  | .warn => "WARN"
  | .info => "INFO"
  | .debug => "DEBUG"
  | .trace => "TRACE"

def Level.isKept : Level → Bool
  | .error | .warn => true
  | .info | .debug | .trace => false

structure Notice where
  level : Level
  target : String
  message : String
  pathKey : Option String := none
  fields : List (String × Json) := []
  deriving Repr, Inhabited

namespace Notice

def bare (s : String) : String := String.ofList (Text.stripWhile (· == '"') s.toList)

def shown (name text : String) : String × Json := (name, .string (bare text))

def warn (target message : String) (fields : List (String × Json)) : Notice :=
  ⟨.warn, target, message, none, sortMembers fields⟩

def error (target message : String) (fields : List (String × Json)) : Notice :=
  ⟨.error, target, message, none, sortMembers fields⟩

/-- The notice given under the path `key`, unless it names a path itself. -/
def under (key : String) (n : Notice) : Notice :=
  { n with pathKey := n.pathKey <|> some (bare key) }

end Notice

end PathAudit
