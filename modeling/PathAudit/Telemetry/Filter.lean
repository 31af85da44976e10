import PathAudit.Notice
import PathAudit.Settings.Basic

/-! What is written of the notices of a running program: the least level, with exceptions for
single modules. -/
namespace PathAudit

/-- A level by its name in any case, or by its number, 1 being the gravest. -/
def Level.ofText? (s : String) : Option Level :=
  let byName := [Level.error, .warn, .info, .debug, .trace].find? fun level =>
    lowered level.name == lowered s
  let written := s.toList
  let digits := if written.head? = some '+' then written.tail else written
  if !digits.isEmpty && digits.all Char.isDigit then
    match Decimal.digitsValue digits with
    | 1 => some .error
    | 2 => some .warn
    | 3 => some .info
    | 4 => some .debug
    | 5 => some .trace
    | _ => none
  else byName

structure TelemetryConfig where
  level : Level := .info
  modules : List (String × Level) := []
  json : Bool := false
  logToDatabase : Bool := false
  databasePath : String
  deriving Repr

namespace TelemetryConfig

def default (home : Option String) : TelemetryConfig :=
  { databasePath := joinPath (ownDirectory home) "logs.db" }

def ofSettings (s : LoggingSettings) : TelemetryConfig :=
  { level := (Level.ofText? s.level).getD .info
    json := s.json
    logToDatabase := s.logToDatabase
    databasePath := s.databasePath }

def directives (c : TelemetryConfig) : String :=
  joined "," (lowered c.level.name ::
    c.modules.map fun (name, level) => name ++ "=" ++ lowered level.name)

end TelemetryConfig

end PathAudit
