import PathAudit.Json.Fault
import PathAudit.Store.Cell

/-! The database of an audit: the revisions of path records, the transcript of each path, and the
index of the analysed code. Rows stand in the order they were inserted. -/
namespace PathAudit

inductive StoreError where
  | database (reason : String)
  | notFound (name : String)
  | serialization (reason : String)
  | io (reason : String)
  | corruptRow (table column detail : String)
  deriving DecidableEq, Repr, Inhabited

namespace StoreError

def kind : StoreError → String
  | .database _ => "database"
  | .notFound _ => "not_found"
  | .serialization _ => "serialization"
  | .io _ => "io"
  | .corruptRow _ _ _ => "corrupt_row"

def message : StoreError → String
  | .database reason => "database error: " ++ reason
  | .notFound name => "not found: " ++ name
  | .serialization reason => "serialization error: " ++ reason
  | .io reason => "IO error: " ++ reason
  | .corruptRow table column detail =>
    "corrupt row in " ++ table ++ "." ++ column ++ ": " ++ detail

def corrupt (table : String) (f : Cell.ColumnFault) : StoreError :=
  .corruptRow table f.column f.message

def corruptJson (table column : String) (e : DecodeError) : StoreError :=
  .corruptRow table column ("invalid JSON: " ++ e.message)

def ofColumn (f : Cell.ColumnFault) : StoreError := .database f.message

def unique (columns : String) : StoreError :=
  .database ("UNIQUE constraint failed: " ++ columns)

def notNull (column : String) : StoreError :=
  .database ("NOT NULL constraint failed: " ++ column)

end StoreError

/-- One revision of a path record; a record is concluded when its flag is not 0. -/
structure RecordRow where
  key : Cell
  revision : Cell
  edgeCount : Cell
  concluded : Cell
  record : Cell
  deriving DecidableEq, Repr, Inhabited

structure EventRow where
  key : Cell
  sequence : Cell
  kind : Cell
  payload : Cell
  deriving DecidableEq, Repr, Inhabited

structure FunctionRow where
  name : Cell
  modulePath : Cell
  startLine : Cell
  totalLines : Cell
  body : Cell
  deriving DecidableEq, Repr, Inhabited

structure CallRow where
  caller : Cell
  callee : Cell
  deriving DecidableEq, Repr, Inhabited

structure Store where
  records : List RecordRow := []
  events : List EventRow := []
  functions : List FunctionRow := []
  calls : List CallRow := []
  deriving DecidableEq, Repr, Inhabited

namespace Store

/-- The number after the greatest one in use, 1 where none is. -/
def nextNumber (column : String) (used : List Cell) : Except StoreError Int :=
  let next := ((Cell.greatest? used).getD (.int 0)).successor
  (next.readInt 0 ("COALESCE(MAX(" ++ column ++ "), 0) + 1")).mapError .ofColumn

def requireAll (table : String) (columns : List (String × Cell)) : Except StoreError Unit :=
  match columns.find? fun (_, c) => c = .null with
  | some (column, _) => .error (.notNull (table ++ "." ++ column))
  | none => .ok ()

end Store

end PathAudit
