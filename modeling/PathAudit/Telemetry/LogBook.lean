import PathAudit.Json.Printer
import PathAudit.Notice
import PathAudit.Telemetry.Pattern

/-! The book in which warnings and errors are kept, and questions to it. Rows are numbered from 1
in the order they come in; an answer lists the newest rows first. -/
namespace PathAudit

structure LogRow where
  id : Nat
  timestamp : String
  level : Level
  target : String
  message : String
  fields : Option String
  inSpan : Bool
  pathKey : Option String
  deriving DecidableEq, Repr, Inhabited

structure LogBook where
  rows : List LogRow := []
  deriving Repr, Inhabited

structure LogQuery where
  level : Option String := none
  target : Option String := none
  pathKey : Option String := none
  since : Option String := none
  limit : Option Nat := none
  deriving Repr, Inhabited

namespace LogBook

/-- The key of the innermost span that has one; spans are listed from the outermost in. -/
def spanKey? (spans : List (Option String)) : Option String := spans.reverse.findSome? id

/-- Keeps a notice given inside the spans, if its level is one of those kept. A path that the
notice names itself counts before those of the spans. -/
def record (timestamp : String) (spans : List (Option String)) (n : Notice) (book : LogBook) :
    LogBook :=
  if n.level.isKept then
    ⟨book.rows ++ [{
      id := book.rows.length + 1
      timestamp
      level := n.level
      target := n.target
      message := n.message
      fields := if n.fields.isEmpty then none else some (Json.object n.fields).compact
      inSpan := !spans.isEmpty
      pathKey := n.pathKey <|> spanKey? spans }]⟩
  else book

def count (book : LogBook) : Nat := book.rows.length

/-- A requested level is compared in upper case. The levels kept are spelled with letters A to Z
only, and no other character has one of theirs as its upper case. -/
def upper (s : String) : String := String.ofList (s.toList.map Char.toUpper)

end LogBook

namespace LogQuery

def defaultLimit : Nat := 100

def accepts (q : LogQuery) (r : LogRow) : Bool :=
  q.level.all (LogBook.upper · == r.level.name) &&
    q.target.all (fun part =>
      Pattern.decides (Pattern.around part.toList) (Pattern.upToNull r.target.toList)) &&
    q.pathKey.all (r.pathKey == some ·) &&
    q.since.all (· ≤ r.timestamp)

/-- The newest rows that the query accepts, at most as many as it allows. That a database refuses to
compare with a pattern of more than 50000 bytes is left out: such a query is answered here too. -/
def run (q : LogQuery) (book : LogBook) : List LogRow :=
  (book.rows.reverse.filter q.accepts).take (q.limit.getD defaultLimit)

end LogQuery

end PathAudit
