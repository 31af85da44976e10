import PathAudit.ModuleCode.Reading
import PathAudit.Notice
import PathAudit.Text.Basic
import PathAudit.Text.Blank

/-! The code of a module that runs when it is loaded: its statements without imports, definitions
and comments. The grammar and the reading it stands on are this library's own stand-in for a parser
of the language; no theorem rests on them. -/
namespace PathAudit.ModuleCode

def notice : Notice :=
  .warn "aegis_store::module_code" "module source does not parse, keeping full text" []

private def texts : Nat → List Char → List Shown → List (List Char)
  | _, _, [] => []
  | offset, s, part :: rest =>
    let s := s.drop (part.start - offset)
    s.take (part.finish - part.start) :: texts part.start s rest

/-- The statements that run, each without the blanks at its end, on lines of their own. `none` if
the source has no sense. -/
def statements? (source : String) : Option String :=
  let text := source.toList
  (Reading.source? text).map fun shown =>
    String.ofList (Text.join ['\n'] ((texts 0 text (shown.filter (·.runs))).map Text.trimEnd))

/-- The code that runs; a source without sense is kept whole. -/
def executable (source : String) : String := (statements? source).getD source

def notices (source : String) : List Notice :=
  if (statements? source).isNone then [notice] else []

end PathAudit.ModuleCode
