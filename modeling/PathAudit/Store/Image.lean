import PathAudit.Json.Value
import PathAudit.Store.Basic

/-! A database as one JSON value, table by table, and back. -/
namespace PathAudit

namespace Cell

def toJson : Cell → Json
  | .null => .null
  | .int i => .int i
  | .real x => .float x
  | .text s => .string s
  | .blob bytes => .array (bytes.map fun b => .nat b.toNat)

def ofJson? : Json → Option Cell
  | .null => some .null
  | .number (.int i) => some (.int i)
  | .number (.float x) => some (.real x)
  | .string s => some (.text s)
  | .array items => do
    let bytes ← items.mapM (·.asNat?)
    if bytes.all (· < 256) then some (.blob (bytes.map UInt8.ofNat)) else none
  | .bool _ | .object _ => none

end Cell

namespace Store

private def cells? (row : Json) : Option (List Cell) := do (← row.asArray?).mapM Cell.ofJson?

private def table {ρ : Type} (cells : ρ → List Cell) (rows : List ρ) : Json :=
  .array (rows.map fun row => .array ((cells row).map Cell.toJson))

private def rows? {ρ : Type} (row? : List Cell → Option ρ) (key : String) (image : Json) :
    Option (List ρ) := do
  (← (← image.get? key).asArray?).mapM fun row => do row? (← cells? row)

def toJson (s : Store) : Json :=
  .object [
    ("calls", table (fun r : CallRow => [r.caller, r.callee]) s.calls),
    ("events", table (fun r : EventRow => [r.key, r.sequence, r.kind, r.payload]) s.events),
    ("functions", table (fun r : FunctionRow =>
      [r.name, r.modulePath, r.startLine, r.totalLines, r.body]) s.functions),
    ("records", table (fun r : RecordRow =>
      [r.key, r.revision, r.edgeCount, r.concluded, r.record]) s.records)]

def ofJson? (image : Json) : Option Store := do
  let records ← rows? (fun
    | [key, revision, edgeCount, concluded, record] =>
      some ⟨key, revision, edgeCount, concluded, record⟩
    | _ => none) "records" image
  let events ← rows? (fun
    | [key, sequence, kind, payload] => some ⟨key, sequence, kind, payload⟩
    | _ => none) "events" image
  let functions ← rows? (fun
    | [name, modulePath, startLine, totalLines, body] =>
      some ⟨name, modulePath, startLine, totalLines, body⟩
    | _ => none) "functions" image
  let calls ← rows? (fun
    | [caller, callee] => some ⟨caller, callee⟩
    | _ => none) "calls" image
  return ⟨records, events, functions, calls⟩

end Store

end PathAudit
