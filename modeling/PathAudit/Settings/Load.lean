import PathAudit.Notice
import PathAudit.Settings.Basic
import PathAudit.Settings.Merge

/-! Settings come from three layers, the later ones winning: the defaults, a JSON file, and
variables of the environment. A variable whose value cannot be used is passed over with a
notice. -/
namespace PathAudit

inductive SettingsError where
  | io (fault : IoFault)
  | json (error : DecodeError)
  | invalidValue (fault : String)
  deriving Repr

def SettingsError.kind : SettingsError → String
  | .io _ => "io"
  | .json _ => "json"
  | .invalidValue _ => "invalid_value"

def SettingsError.message : SettingsError → String
  | .io fault => "failed to read settings file: " ++ fault.message
  | .json error => "failed to parse settings JSON: " ++ error.message
  | .invalidValue fault => "invalid settings value: " ++ fault

abbrev Environment := String → Option String

/-- A variable and what its value changes, or why it is passed over. -/
structure Override where
  variableName : String
  change : String → Settings → Except Notice Settings

namespace Override

def target : String := "aegis_settings::loader"

private def ignored (message variableName value : String) (more : List (String × Json)) : Notice :=
  .warn target message ([("key", .string variableName), Notice.shown "value" value] ++ more)

def text (variableName : String) (change : String → Settings → Settings) : Override :=
  ⟨variableName, fun value s => .ok (change value s)⟩

def ranged (variableName : String) (least greatest : Nat) (change : Nat → Settings → Settings) :
    Override :=
  ⟨variableName, fun value s =>
    match Scalar.number? value least greatest with
    | some n => .ok (change n s)
    | none => .error (ignored "out-of-range env var, ignoring" variableName value
        [("min", .nat least), ("max", .nat greatest)])⟩

def level (variableName : String) (change : String → Settings → Settings) : Override :=
  ⟨variableName, fun value s =>
    match Scalar.level? value with
    | some name => .ok (change name s)
    | none => .error (ignored "invalid log level env var, ignoring" variableName value [])⟩

def flag (variableName : String) (change : Bool → Settings → Settings) : Override :=
  ⟨variableName, fun value s =>
    match Scalar.flag? value with
    | some b => .ok (change b s)
    | none => .error (ignored "invalid boolean env var, ignoring" variableName value [])⟩

def all : List Override := [
  text "AEGIS_BASE_URL" fun v s => { s with reasoning.baseUrl := v },
  text "AEGIS_API_KEY" fun v s => { s with reasoning.apiKey := some v },
  text "AEGIS_INSTRUCT_MODEL" fun v s => { s with reasoning.instructModel := v },
  text "AEGIS_THINK_MODEL" fun v s => { s with reasoning.thinkModel := v },
  text "AEGIS_VERIFIER_MODEL" fun v s => { s with reasoning.verifierModel := some v },
  ranged "AEGIS_MAX_STEPS" 1 10000 fun n s => { s with audit.maxSteps := n },
  ranged "AEGIS_MAX_CONCURRENT_SESSIONS" 1 64 fun n s =>
    { s with audit.maxConcurrentSessions := n },
  text "AEGIS_DOT_BINARY" fun v s => { s with render.dotBinary := some v },
  text "AEGIS_DB" fun v s => { s with storage.databasePath := v },
  level "AEGIS_LOG_LEVEL" fun v s => { s with logging.level := v },
  flag "AEGIS_LOG_JSON" fun b s => { s with logging.json := b }]

/-- Applies one override; an empty value counts as none. -/
def apply (env : Environment) (state : Settings × List Notice) (o : Override) :
    Settings × List Notice :=
  match (env o.variableName).filter (!·.isEmpty) with
  | none => state
  | some value =>
    match o.change value state.1 with
    | .ok s => (s, state.2)
    | .error notice => (state.1, state.2 ++ [notice])

end Override

namespace Settings

def overridden (env : Environment) (s : Settings) : Settings × List Notice :=
  Override.all.foldl (Override.apply env) (s, [])

def path (home : Option String) : String := joinPath (ownDirectory home) "settings.json"

/-- The settings of the file laid over the defaults, before the environment has its say. A file
that does not exist says nothing. -/
def ofFile (home : Option String) (files : Files) (path : String) :
    Except SettingsError Settings := do
  let defaults := (default home).toJson
  let document ←
    if files.has path then do
      let text ← (files.readText path).mapError .io
      let user ← (Json.parse text).mapError fun fault => .json (.fault fault)
      pure (defaults.merge user)
    else pure defaults
  ((decoder home).ofJson document).mapError .json

def load (home : Option String) (files : Files) (path : String) (env : Environment) :
    Except SettingsError Settings × List Notice :=
  match ofFile home files path with
  | .error e => (.error e, [])
  | .ok s =>
    let (s, notices) := s.overridden env
    match s.fault? with
    | some fault => (.error (.invalidValue fault), notices)
    | none => (.ok s, notices)

end Settings

end PathAudit
