import PathAudit.Chat.Context
import PathAudit.Chat.Retry
import PathAudit.Files
import PathAudit.Settings.Scalar

/-! The settings of a run, section by section, with their defaults, their JSON form and the values
no run could work with. Every field of every section may be left out. -/
namespace PathAudit

structure ReasoningSettings where
  baseUrl : String := "http://localhost:8000/v1"
  apiKey : Option String := none
  instructModel : String := "Qwen3-VL-32B-Instruct-FP8"
  thinkModel : String := "Qwen3-VL-32B-Thinking-FP8"
  /-- The model that verifies judgments, when it is not the one that thinks. -/
  verifierModel : Option String := none
  /-- A number of 32 bits; none stands for one beyond their range. -/
  temperature : Option Double := some (.zero false)
  maxTokens : Nat := 4096
  requestTimeoutSecs : Nat := 600
  deriving Repr, Inhabited

structure RetrySettings where
  maxRetries : Nat := 3
  baseDelayMs : Nat := 1000
  maxDelayMs : Nat := 30000
  breakerThreshold : Nat := 5
  breakerCooldownSecs : Nat := 60
  deriving DecidableEq, Repr, Inhabited

structure AuditSettings where
  maxSteps : Nat := 100
  maxKeyCodeLines : Nat := 15
  annotateOnStart : Bool := true
  maxConcurrentSessions : Nat := 1
  maxInspectBytes : Nat := 32768
  deriving DecidableEq, Repr, Inhabited

structure RenderSettings where
  outputDir : String := "outputs/attack_path_graphs"
  dotBinary : Option String := none
  deriving DecidableEq, Repr, Inhabited

structure StorageSettings where
  databasePath : String
  deriving DecidableEq, Repr, Inhabited

structure LoggingSettings where
  level : String := "info"
  json : Bool := false
  logToDatabase : Bool := false
  databasePath : String
  deriving DecidableEq, Repr, Inhabited

structure Settings where
  reasoning : ReasoningSettings := {}
  retry : RetrySettings := {}
  audit : AuditSettings := {}
  render : RenderSettings := {}
  storage : StorageSettings
  logging : LoggingSettings
  deriving Repr, Inhabited

def ownDirectory (home : Option String) : String := joinPath (home.getD "/tmp") ".aegis"

namespace ReasoningSettings

def verifier (s : ReasoningSettings) : String := s.verifierModel.getD s.thinkModel

def options (s : ReasoningSettings) : ChatOptions := ⟨some s.maxTokens, s.temperature⟩

def toJson (s : ReasoningSettings) : Json :=
  .ofMembers ([("baseUrl", .string s.baseUrl), ("instructModel", .string s.instructModel),
    ("maxTokens", .nat s.maxTokens), ("requestTimeoutSecs", .nat s.requestTimeoutSecs),
    ("temperature", .orNull .float s.temperature), ("thinkModel", .string s.thinkModel)] ++
    (s.apiKey.map fun key => ("apiKey", .string key)).toList ++
    (s.verifierModel.map fun model => ("verifierModel", .string model)).toList)

private def fill : Decoder.Fill ReasoningSettings := fun origin name raw s =>
  match name with
  | "baseUrl" => do .ok { s with baseUrl := ← Decoder.text origin raw }
  | "apiKey" => do .ok { s with apiKey := ← Decoder.text.option origin raw }
  | "instructModel" => do .ok { s with instructModel := ← Decoder.text origin raw }
  | "thinkModel" => do .ok { s with thinkModel := ← Decoder.text origin raw }
  | "verifierModel" => do .ok { s with verifierModel := ← Decoder.text.option origin raw }
  | "temperature" => do .ok { s with temperature := ← Decoder.single origin raw }
  | "maxTokens" => do .ok { s with maxTokens := ← Decoder.u32 origin raw }
  | _ => do .ok { s with requestTimeoutSecs := ← Decoder.u64 origin raw }

def decoder : Decoder ReasoningSettings :=
  Decoder.fields "struct ReasoningSettings"
    (["baseUrl", "apiKey", "instructModel", "thinkModel", "verifierModel", "temperature",
      "maxTokens", "requestTimeoutSecs"].map (⟨·, [], true⟩)) {} fill .ok

end ReasoningSettings

namespace RetrySettings

/-- Waits keep the policy's own share of chance. -/
def policy (s : RetrySettings) : RetryPolicy :=
  { maxRetries := s.maxRetries
    baseDelay := Span.millis s.baseDelayMs
    maxDelay := Span.millis s.maxDelayMs
    threshold := s.breakerThreshold
    cooldown := Span.seconds s.breakerCooldownSecs }

def toJson (s : RetrySettings) : Json :=
  .object [("baseDelayMs", .nat s.baseDelayMs),
    ("circuitBreakerCooldownSecs", .nat s.breakerCooldownSecs),
    ("circuitBreakerThreshold", .nat s.breakerThreshold), ("maxDelayMs", .nat s.maxDelayMs),
    ("maxRetries", .nat s.maxRetries)]

private def fill : Decoder.Fill RetrySettings := fun origin name raw s =>
  match name with
  | "maxRetries" => do .ok { s with maxRetries := ← Decoder.u32 origin raw }
  | "baseDelayMs" => do .ok { s with baseDelayMs := ← Decoder.u64 origin raw }
  | "maxDelayMs" => do .ok { s with maxDelayMs := ← Decoder.u64 origin raw }
  | "circuitBreakerThreshold" => do .ok { s with breakerThreshold := ← Decoder.u32 origin raw }
  | _ => do .ok { s with breakerCooldownSecs := ← Decoder.u64 origin raw }

def decoder : Decoder RetrySettings :=
  Decoder.fields "struct RetrySettings"
    (["maxRetries", "baseDelayMs", "maxDelayMs", "circuitBreakerThreshold",
      "circuitBreakerCooldownSecs"].map (⟨·, [], true⟩)) {} fill .ok

end RetrySettings

namespace AuditSettings

def toJson (s : AuditSettings) : Json :=
  .object [("annotateOnStart", .bool s.annotateOnStart),
    ("maxConcurrentSessions", .nat s.maxConcurrentSessions),
    ("maxInspectBytes", .nat s.maxInspectBytes), ("maxKeyCodeLines", .nat s.maxKeyCodeLines),
    ("maxSteps", .nat s.maxSteps)]

private def fill : Decoder.Fill AuditSettings := fun origin name raw s =>
  match name with
  | "maxSteps" => do .ok { s with maxSteps := ← Decoder.u32 origin raw }
  | "maxKeyCodeLines" => do .ok { s with maxKeyCodeLines := ← Decoder.usize origin raw }
  | "annotateOnStart" => do .ok { s with annotateOnStart := ← Decoder.bool origin raw }
  | "maxConcurrentSessions" => do
    .ok { s with maxConcurrentSessions := ← Decoder.usize origin raw }
  | _ => do .ok { s with maxInspectBytes := ← Decoder.usize origin raw }

def decoder : Decoder AuditSettings :=
  Decoder.fields "struct AuditSettings"
    (["maxSteps", "maxKeyCodeLines", "annotateOnStart", "maxConcurrentSessions",
      "maxInspectBytes"].map (⟨·, [], true⟩)) {} fill .ok

end AuditSettings

namespace RenderSettings

def toJson (s : RenderSettings) : Json :=
  .object ((s.dotBinary.map fun path => ("dotBinary", .string path)).toList ++
    [("outputDir", .string s.outputDir)])

private def fill : Decoder.Fill RenderSettings := fun origin name raw s =>
  match name with
  | "outputDir" => do .ok { s with outputDir := ← Decoder.path origin raw }
  | _ => do .ok { s with dotBinary := ← Decoder.path.option origin raw }

def decoder : Decoder RenderSettings :=
  Decoder.fields "struct RenderSettings"
    (["outputDir", "dotBinary"].map (⟨·, [], true⟩)) {} fill .ok

end RenderSettings

namespace StorageSettings

def default (home : Option String) : StorageSettings := ⟨joinPath (ownDirectory home) "aegis.db"⟩

def toJson (s : StorageSettings) : Json := .object [("databasePath", .string s.databasePath)]

private def fill : Decoder.Fill StorageSettings := fun origin _ raw _ =>
  (Decoder.path origin raw).map StorageSettings.mk

def decoder (home : Option String) : Decoder StorageSettings :=
  Decoder.fields "struct StorageSettings" [⟨"databasePath", [], true⟩] (default home) fill .ok

end StorageSettings

namespace LoggingSettings

def default (home : Option String) : LoggingSettings :=
  { databasePath := joinPath (ownDirectory home) "logs.db" }

def toJson (s : LoggingSettings) : Json :=
  .object [("json", .bool s.json), ("level", .string s.level),
    ("logDbPath", .string s.databasePath), ("logToSqlite", .bool s.logToDatabase)]

private def fill : Decoder.Fill LoggingSettings := fun origin name raw s =>
  match name with
  | "level" => do .ok { s with level := ← Decoder.text origin raw }
  | "json" => do .ok { s with json := ← Decoder.bool origin raw }
  | "logToSqlite" => do .ok { s with logToDatabase := ← Decoder.bool origin raw }
  | _ => do .ok { s with databasePath := ← Decoder.path origin raw }

def decoder (home : Option String) : Decoder LoggingSettings :=
  Decoder.fields "struct LoggingSettings"
    (["level", "json", "logToSqlite", "logDbPath"].map (⟨·, [], true⟩)) (default home) fill .ok

end LoggingSettings

namespace Settings

def default (home : Option String) : Settings :=
  { storage := .default home, logging := .default home }

def toJson (s : Settings) : Json :=
  .object [("audit", s.audit.toJson), ("logging", s.logging.toJson),
    ("reasoning", s.reasoning.toJson), ("render", s.render.toJson), ("retry", s.retry.toJson),
    ("storage", s.storage.toJson)]

private def fill (home : Option String) : Decoder.Fill Settings := fun origin name raw s =>
  match name with
  | "reasoning" => do .ok { s with reasoning := ← ReasoningSettings.decoder origin raw }
  | "retry" => do .ok { s with retry := ← RetrySettings.decoder origin raw }
  | "audit" => do .ok { s with audit := ← AuditSettings.decoder origin raw }
  | "render" => do .ok { s with render := ← RenderSettings.decoder origin raw }
  | "storage" => do .ok { s with storage := ← StorageSettings.decoder home origin raw }
  | _ => do .ok { s with logging := ← LoggingSettings.decoder home origin raw }

def decoder (home : Option String) : Decoder Settings :=
  Decoder.fields "struct AegisSettings"
    (["reasoning", "retry", "audit", "render", "storage", "logging"].map (⟨·, [], true⟩))
    (default home) (fill home) .ok

/-- What makes a run impossible, the first such thing if there are several. -/
def fault? (s : Settings) : Option String :=
  if (trimmed s.reasoning.baseUrl).isEmpty then some "reasoning.baseUrl is empty"
  else if s.audit.maxSteps = 0 then some "audit.maxSteps must be at least 1"
  else if s.audit.maxConcurrentSessions = 0 then
    some "audit.maxConcurrentSessions must be at least 1"
  else if s.audit.maxKeyCodeLines = 0 then some "audit.maxKeyCodeLines must be at least 1"
  else if (Scalar.level? s.logging.level).isNone then
    some ("logging.level '" ++ s.logging.level ++ "' is not a log level")
  else none

end Settings

end PathAudit
