import PathAudit.Files
import PathAudit.Graph.Sinks
import PathAudit.Json.Printer
import PathAudit.Store.Basic

/-! Path records in revisions. Saving adds a revision; reading sees the latest one of each key. A
record is kept as the text of its JSON form. -/
namespace PathAudit

structure ImportSummary where
  imported : Nat := 0
  /-- Keys left alone because their record has a conclusion. -/
  keptConcluded : Nat := 0
  seededSinks : Nat := 0
  deriving DecidableEq, Repr, Inhabited

structure RecordStatus where
  key : String
  revision : Int
  edgeCount : Int
  conclusion : Option Bool
  deriving DecidableEq, Repr, Inhabited

namespace Store

def revisionsOf (s : Store) (key : String) : List RecordRow :=
  s.records.filter fun row => row.key.equals (.text key)

def insertRecord (s : Store) (row : RecordRow) : Except StoreError Store := do
  requireAll "path_records" [("path_key", row.key), ("revision", row.revision),
    ("edge_count", row.edgeCount), ("concluded", row.concluded), ("record", row.record)]
  if s.records.any fun r => r.key.equals row.key && r.revision.equals row.revision then
    .error (.unique "path_records.path_key, path_records.revision")
  else .ok { s with records := s.records ++ [row] }

def save (s : Store) (key : String) (r : PathRecord) : Except StoreError (Store × Int) := do
  let revision ← nextNumber "revision" ((s.revisionsOf key).map (·.revision))
  let flag := if r.isConcluded then 1 else 0
  let s ← s.insertRecord ⟨.text key, .int revision, .int r.callGraph.length, .int flag,
    .text r.toJson.compact⟩
  .ok (s, revision)

def latestRow? (s : Store) (key : String) : Option RecordRow :=
  (Cell.sortBy (fun a b => b.revision.before a.revision) (s.revisionsOf key)).head?

def parseRecord (text : String) : Except StoreError PathRecord :=
  (PathRecord.decoder.ofText text).mapError (.corruptJson "path_records" "record")

def get (s : Store) (key : String) : Except StoreError (Option PathRecord) :=
  match s.latestRow? key with
  | none => .ok none
  | some row => do
    let text ← (row.record.readText 0 "record").mapError (.corrupt "path_records")
    return some (← parseRecord text)

def latestRows (s : Store) : List RecordRow :=
  s.records.filter fun row =>
    match Cell.greatest? ((s.records.filter fun r => r.key.equals row.key).map (·.revision)) with
    | some revision => row.revision.equals revision
    | none => false

def rowsByKey (rows : List RecordRow) : List RecordRow :=
  Cell.sortBy (fun a b => a.key.before b.key) rows

def readRow (row : RecordRow) : Except StoreError (String × PathRecord) := do
  let key ← (row.key.readText 0 "path_key").mapError (.corrupt "path_records")
  let text ← (row.record.readText 3 "record").mapError (.corrupt "path_records")
  return (key, ← parseRecord text)

def latest (s : Store) : Except StoreError (List (String × PathRecord)) :=
  (rowsByKey s.latestRows).mapM readRow

def fewerEdges (a b : RecordRow) : Bool :=
  a.edgeCount.before b.edgeCount ||
    (!b.edgeCount.before a.edgeCount && a.key.before b.key)

def pendingRows (s : Store) : List RecordRow :=
  Cell.sortBy fewerEdges (s.latestRows.filter fun row => row.concluded.equals (.int 0))

/-- The records without a conclusion, those with fewer edges first. -/
def pending (s : Store) : Except StoreError (List (String × PathRecord)) :=
  s.pendingRows.mapM readRow

def statusOfRow (row : RecordRow) : Except StoreError RecordStatus := do
  let text ← (row.record.readText 3 "record").mapError (.corrupt "path_records")
  let record ← parseRecord text
  let key ← (row.key.readText 0 "path_key").mapError (.corrupt "path_records")
  let revision ← (row.revision.readInt 1 "revision").mapError (.corrupt "path_records")
  let edgeCount ← (row.edgeCount.readInt 2 "edge_count").mapError (.corrupt "path_records")
  return ⟨key, revision, edgeCount, record.conclusion⟩

def status (s : Store) : Except StoreError (List RecordStatus) :=
  (rowsByKey s.latestRows).mapM statusOfRow

def isConcluded (s : Store) (key : String) : Except StoreError Bool :=
  match s.latestRow? key with
  | none => .ok false
  | some row => (row.concluded.readFlag 0 "concluded").mapError .ofColumn

/-- Takes in one record: a conclusion is never overwritten, a known sink is described. -/
def importRecord (state : Store × ImportSummary) (entry : String × PathRecord) :
    Except StoreError (Store × ImportSummary) := do
  let (s, summary) := state
  let (key, record) := entry
  if ← s.isConcluded key then
    return (s, { summary with keptConcluded := summary.keptConcluded + 1 })
  let seeded := if (Sinks.missing? record).isSome then 1 else 0
  let (s, _) ← s.save key (Sinks.seed record)
  return (s, { summary with
    imported := summary.imported + 1, seededSinks := summary.seededSinks + seeded })

/-- Takes in records in increasing order of their keys, all of them or none. -/
def importRecords (s : Store) (records : Dict PathRecord) :
    Except StoreError (Store × ImportSummary) :=
  records.entries.foldlM importRecord (s, {})

def importText (s : Store) (text : String) : Except StoreError (Store × ImportSummary) := do
  let records ← ((Dict.decoder PathRecord.decoder).ofText text).mapError fun e =>
    .serialization e.message
  s.importRecords records

def importFile (s : Store) (files : Files) (path : String) :
    Except StoreError (Store × ImportSummary) := do
  let text ← (files.readText path).mapError fun fault =>
    .io ("read " ++ path ++ ": " ++ fault.message)
  s.importText text

def exportText (s : Store) : Except StoreError (Nat × String) := do
  let records := Dict.ofList (← s.latest)
  return (records.size, (records.toJson PathRecord.toJson).pretty)

def exportFile (s : Store) (files : Files) (path : String) : Except StoreError (Nat × Files) := do
  let (count, text) ← s.exportText
  let files ← (files.writeText path text).mapError fun fault =>
    .io ("write " ++ path ++ ": " ++ fault.message)
  return (count, files)

end Store

end PathAudit
