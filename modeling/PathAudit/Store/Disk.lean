import PathAudit.Files
import PathAudit.Store.Basic
import PathAudit.Store.Location

/-! Databases as files. Opening one makes the directories above it; a file that holds anything but
a database is refused. -/
namespace PathAudit

structure Disk where
  files : Files := {}
  databases : Dict Store := .empty
  deriving Repr, Inhabited

/-- The error of a database that is not opened: some faults are noticed only when it is first used,
and some when its tables are made. -/
def OpenFault.error (fault : OpenFault) : StoreError :=
  match fault with
  | .notDatabase | .unwritable true => .database ("pragmas: " ++ fault.message)
  | .unwritable false => .database ("schema: " ++ fault.message)
  | _ => .database fault.message

namespace Disk

/-- What a database file starts with; no text does. -/
def stamp : List UInt8 := [0xFF, 0] ++ Utf8.encode "path audit 1".toList ++ [0]

def nameLimit : Nat := 495

/-- The file of a database, made if it is missing, or why it cannot be used. A file of a single byte
counts as empty. The file is found by the names along its path alone. -/
def openFile (d : Disk) (path : String) : Except OpenFault Disk := do
  let l ← Location.ofName path
  let name := Files.normal l.name
  let made (isEmpty : Bool) : Except OpenFault Disk :=
    if l.isReadOnly then .error (.unwritable (isEmpty && !l.isImmutable))
    else
      match d.files.write name stamp with
      | .ok files => .ok { d with files }
      | .error _ => .error (.unreachable path)
  if l.isTransient then if l.isReadOnly then .error (.unwritable false) else .ok d
  else if byteSize name > nameLimit then .error (.unreachable path)
  else
    match d.files.read name with
    | .ok bytes =>
      if bytes.length ≤ 1 then made true
      else if (d.databases.get? name).isSome || stamp.isPrefixOf bytes then .ok d
      else .error .notDatabase
    | .error .notFound => if l.access = .create then made false else .error (.unreachable path)
    | .error _ => .error (.unreachable path)

def keptAs? (path : String) : Option String := do
  let l ← (Location.ofName path).toOption
  if l.isTransient then none else some (Files.normal l.name)

def isWritable (path : String) : Bool := (Location.ofName path).toOption.any (!·.isReadOnly)

def database? (d : Disk) (path : String) : Option Store := do d.databases.get? (← keptAs? path)

/-- Opens the database of a file, making the directories above it. -/
def openDatabase (d : Disk) (path : String) : Except StoreError (Store × Disk) := do
  let files ← (d.files.makeRoom path).mapError fun fault => .io ("create dir: " ++ fault.message)
  let d ← (openFile { d with files } path).mapError OpenFault.error
  match d.database? path with
  | some s => .ok (s, d)
  | none => if isWritable path then .ok ({}, d) else .error (OpenFault.unwritable false).error

def keep (d : Disk) (path : String) (s : Store) : Disk :=
  match keptAs? path with
  | some name => if isWritable path then { d with databases := d.databases.insert name s } else d
  | none => d

end Disk

end PathAudit
