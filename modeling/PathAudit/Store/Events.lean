import PathAudit.Json.Printer
import PathAudit.Json.Raw
import PathAudit.Store.Basic

/-! The transcript of each path: what happened at every step of its audits, numbered from 1. -/
namespace PathAudit

inductive EventKind where
  | reasoning
  | action
  | rejection
  | verdict
  | failure
  deriving DecidableEq, Repr, Inhabited

namespace EventKind

def all : List EventKind := [.reasoning, .action, .rejection, .verdict, .failure]

def name : EventKind → String
  | .reasoning => "reasoning"
  | .action => "action"
  | .rejection => "rejection"
  | .verdict => "verdict"
  | .failure => "failure"

def ofName? (text : String) : Option EventKind := all.find? (·.name == text)

theorem ofName?_name (kind : EventKind) : ofName? kind.name = some kind := by
  cases kind <;> decide

end EventKind

structure AuditEvent where
  key : String
  sequence : Int
  kind : EventKind
  payload : Json
  deriving Repr, Inhabited

def AuditEvent.toJson (e : AuditEvent) : Json :=
  .object [("kind", .string e.kind.name), ("path_key", .string e.key), ("payload", e.payload),
    ("sequence", .int e.sequence)]

namespace Store

def eventsOf (s : Store) (key : String) : List EventRow :=
  s.events.filter fun row => row.key.equals (.text key)

def insertEvent (s : Store) (row : EventRow) : Except StoreError Store := do
  requireAll "audit_events" [("path_key", row.key), ("sequence", row.sequence), ("kind", row.kind),
    ("payload", row.payload)]
  .ok { s with events := s.events ++ [row] }

def append (s : Store) (key : String) (kind : EventKind) (payload : Json) :
    Except StoreError (Store × AuditEvent) := do
  let sequence ← nextNumber "sequence" ((s.eventsOf key).map (·.sequence))
  let s ← s.insertEvent ⟨.text key, .int sequence, .text kind.name, .text payload.compact⟩
  .ok (s, ⟨key, sequence, kind, payload⟩)

def readEvent (row : EventRow) : Except StoreError AuditEvent := do
  let kindName ← (row.kind.readText 2 "kind").mapError (.corrupt "audit_events")
  let payloadText ← (row.payload.readText 3 "payload").mapError (.corrupt "audit_events")
  let key ← (row.key.readText 0 "path_key").mapError (.corrupt "audit_events")
  let sequence ← (row.sequence.readInt 1 "sequence").mapError (.corrupt "audit_events")
  let kind ← match EventKind.ofName? kindName with
    | some kind => .ok kind
    | none => .error (.corruptRow "audit_events" "kind" ("unknown variant: " ++ kindName))
  let payload ← (Json.parse payloadText).mapError fun fault =>
    .corruptJson "audit_events" "payload" (.fault fault)
  return ⟨key, sequence, kind, payload⟩

def transcript (s : Store) (key : String) : Except StoreError (List AuditEvent) :=
  (Cell.sortBy (fun a b => a.sequence.before b.sequence) (s.eventsOf key)).mapM readEvent

def eventCount (s : Store) (key : String) : Nat := (s.eventsOf key).length

end Store

end PathAudit
