import PathAudit.Audit.Batch
import PathAudit.Chat.Endpoint
import PathAudit.Cli.Arguments
import PathAudit.Cli.Failure
import PathAudit.Store.Disk
import PathAudit.Store.Sources
import PathAudit.Telemetry.Filter

/-! A run of the program: from the words of the command line and the disk to what is printed and
the disk afterwards. No service can be reached, so that an audit ends with its first request. -/
namespace PathAudit.Cli

structure Outcome where
  code : Nat := 0
  output : String := ""
  complaints : String := ""
  deriving Repr, Inhabited

def version : String := "aegis 0.1.0\n"

def help : String :=
  "Verify candidate attack paths with LLM-guided call-graph auditing\n\n" ++
  "Usage: aegis [OPTIONS] <COMMAND>\n\n" ++
  "Commands: import-records, import-index, audit, status, export, help\n"

/-- The reasoners of a run, each behind its own guard, with the clock and the files they share. -/
structure Bench where
  files : Files
  clock : Nat := 0
  instruct : Guard := {}
  think : Guard := {}
  verifier : Guard := {}

namespace Bench

def timing : Timing Bench where
  now b := b.clock
  cancelled _ := false
  choice _ := 0
  sleep wait b := { b with clock := b.clock + wait }

/-- Analyses go to the same reasoners as the questions of an audit. -/
def model (s : ReasoningSettings) : Role → String
  | .instruct | .extract => s.instructModel
  | .think | .extractThink => s.thinkModel
  | .verifier => s.verifier

def guard (b : Bench) : Role → Guard
  | .instruct | .extract => b.instruct
  | .think | .extractThink => b.think
  | .verifier => b.verifier

def withGuard (b : Bench) (g : Guard) : Role → Bench
  | .instruct | .extract => { b with instruct := g }
  | .think | .extractThink => { b with think := g }
  | .verifier => { b with verifier := g }

def ask (s : Settings) (role : Role) (context : ChatContext) (options : ChatOptions) (b : Bench) :
    Reply × Bench :=
  let name := model s.reasoning role
  let endpoint : Endpoint := ⟨s.reasoning.baseUrl, s.reasoning.apiKey, name⟩
  let (reply, g, b, _) := Guard.stream timing s.retry.policy name
    (endpoint.provider.stream context options) (b.guard role) b
  (reply, b.withGuard g role)

/-- A drawing program is looked for under its name and never found. -/
def draw (s : Settings) (path : String) (view : PathView) (remark : Option String) (b : Bench) :
    Except RenderError Attachment × Bench :=
  let program : Option DrawingProgram := s.render.dotBinary.map fun _ _ => .missing
  let (result, files) := Drawing.render program path view remark b.files
  (result, { b with files })

def collaborators (s : Settings) (resolver : Resolver) : Collaborators Bench :=
  ⟨resolver, model s.reasoning, ask s, draw s⟩

end Bench

def auditConfig (s : Settings) : AuditConfig :=
  let options := s.reasoning.options
  ⟨s.audit.maxSteps, s.audit.annotateOnStart, options,
    ⟨{ options, maxKeyCodeLines := s.audit.maxKeyCodeLines }, s.audit.maxInspectBytes⟩⟩

def verdictLabel (isVulnerable : Bool) : String :=
  if isVulnerable then "vulnerable" else "not vulnerable"

private def column (width : Nat) (s : String) : String :=
  String.ofList (Text.padRight width s.toList)

private def shownInt (i : Int) : String := String.ofList (Decimal.ofInt i)

def statusLine (r : RecordStatus) : String :=
  "  " ++ column 60 r.key ++ " edges=" ++ column 3 (shownInt r.edgeCount) ++ " rev=" ++
    column 3 (shownInt r.revision) ++ " " ++ (r.conclusion.map verdictLabel).getD "pending" ++ "\n"

def statusText (rows : List RecordStatus) : String :=
  let concluded := (rows.filter (·.conclusion.isSome)).length
  decimal rows.length ++ " records: " ++ decimal concluded ++ " concluded, " ++
    decimal (rows.length - concluded) ++ " pending\n" ++ joined "" (rows.map statusLine)

def summaryText (s : BatchSummary) : String :=
  "concluded " ++ decimal s.concluded ++ " (" ++ decimal s.vulnerable ++ " vulnerable), failed " ++
    decimal s.failed ++ ", skipped " ++ decimal s.skipped ++ "\n"

def importText (s : ImportSummary) : String :=
  "imported " ++ decimal s.imported ++ " records (" ++ decimal s.keptConcluded ++
    " already concluded, " ++ decimal s.seededSinks ++ " seeded with sink findings)\n"

/-- Files and database as a command finds and leaves them, with what it prints. -/
abbrev Effect := Except Failure String × Store × Files

private def stored {α : Type} (doing : String) (s : Store) (files : Files)
    (result : Except StoreError α) (done : α → Effect) : Effect :=
  match result with
  | .ok a => done a
  | .error e => (.error ⟨doing, [e.message]⟩, s, files)

def audit (settings : Settings) (key : Option String) (s : Store) (files : Files) : Effect :=
  let outputDir := settings.render.outputDir
  match files.makeDirectories outputDir with
  | .error fault =>
    (.error ⟨"creating render directory " ++ outputDir, [fault.message]⟩, s, files)
  | .ok files =>
    let c := Bench.collaborators settings (s.resolver files)
    let config : BatchConfig :=
      ⟨auditConfig settings, outputDir, settings.audit.maxConcurrentSessions⟩
    let w : World Bench := { outside := { files }, store := s }
    match key with
    | some key =>
      let (result, w) := Batch.runOne c config key w
      let told := match result with
        | .ok outcome =>
          .ok (key ++ ": " ++ verdictLabel outcome.verdict.isVulnerable ++ " after " ++
            decimal outcome.steps ++ " steps\n")
        | .error e => .error ⟨"auditing " ++ key, Failure.ofAudit e⟩
      (told, w.store, w.outside.files)
    | none =>
      let (result, w) := Batch.runPending c config (fun _ => false) w
      let told := match result with
        | .ok summary => .ok (summaryText summary)
        | .error e => .error (.ofCauses (Failure.ofAudit e))
      (told, w.store, w.outside.files)

/-- Refuses rows for a database that may not be written. -/
private def guarded {α : Type} (writable : Bool) (rows : α → Nat)
    (result : Except StoreError (Store × α)) : Except StoreError (Store × α) := do
  let (s, a) ← result
  if writable || rows a = 0 then .ok (s, a)
  else .error (.database (OpenFault.unwritable false).message)

def perform (settings : Settings) (command : Command) (writable : Bool) (s : Store)
    (files : Files) : Effect :=
  match command with
  | .importRecords file =>
    stored ("importing records from " ++ file) s files
      (guarded writable (·.imported) (s.importFile files file))
      fun (s, summary) => (.ok (importText summary), s, files)
  | .importIndex file =>
    stored ("importing source index from " ++ file) s files
      (guarded writable (fun (functions, calls) => functions + calls) (s.importSources files file))
      fun (s, functions, calls) =>
        (.ok ("indexed " ++ decimal functions ++ " functions and " ++ decimal calls ++
          " call sites\n"), s, files)
  | .status =>
    match s.status with
    | .ok rows => (.ok (statusText rows), s, files)
    | .error e => (.error ⟨e.message, []⟩, s, files)
  | .export file =>
    stored ("exporting records to " ++ file) s files (s.exportFile files file)
      fun (written, files) =>
        (.ok ("exported " ++ decimal written ++ " records to " ++ file ++ "\n"), s, files)
  | .audit key => audit settings key s files

/-- Opens the database that notices are kept in; a failure is only told. -/
def openLogs (c : TelemetryConfig) (d : Disk) : String × Disk :=
  if !c.logToDatabase then ("", d)
  else
    let d := { d with files := ((d.files.makeRoom c.databasePath).toOption).getD d.files }
    match d.openFile c.databasePath with
    | .ok d => ("", d)
    | .error fault =>
      ("aegis-telemetry: failed to open log DB: " ++ fault.message ++ "\n", d)

private def openStore (path : String) (d : Disk) : Except Failure (Store × Disk) := do
  let files ← match parentPath? path with
    | none => .ok d.files
    | some above =>
      (d.files.makeDirectories above).mapError fun fault =>
        ⟨"creating database directory " ++ above, [fault.message]⟩
  (Disk.openDatabase { d with files } path).mapError fun e =>
    ⟨"opening database " ++ path, [e.message]⟩

def runArguments (home : Option String) (env : Environment) (a : Arguments) (d : Disk) :
    Outcome × Disk :=
  let failed (complaints : String) (f : Failure) : Outcome :=
    { code := 1, complaints := complaints ++ f.report }
  let path := a.settings.getD (Settings.path home)
  match (Settings.load home d.files path env).1 with
  | .error e => (failed "" ⟨"loading settings from " ++ path, Failure.ofSettings e⟩, d)
  | .ok settings =>
    let (complaints, d) := openLogs (.ofSettings settings.logging) d
    let database := a.database.getD settings.storage.databasePath
    match openStore database d with
    | .error f => (failed complaints f, d)
    | .ok (s, d) =>
      let (result, s, files) := perform settings a.command (Disk.isWritable database) s d.files
      let d := Disk.keep { d with files } database s
      match result with
      | .ok output => ({ output, complaints }, d)
      | .error f => (failed complaints f, d)

def run (home : Option String) (env : Environment) (words : List String) (d : Disk) :
    Outcome × Disk :=
  match Request.ofWords words with
  | .version => ({ output := version }, d)
  | .help => ({ output := help }, d)
  | .misuse => ({ code := 2 }, d)
  | .run a => runArguments home env a d

end PathAudit.Cli
