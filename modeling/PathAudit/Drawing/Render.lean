import PathAudit.Chat.Context
import PathAudit.Drawing.Dot
import PathAudit.Files

/-! Drawings as files. The source of a drawing is always written; where a drawing program is at
hand it turns the source into an image. -/
namespace PathAudit

inductive RenderError where
  | io (fault : IoFault)
  | graphviz (reason : String)
  deriving DecidableEq, Repr, Inhabited

def RenderError.message : RenderError → String
  | .io fault => "render io error: " ++ fault.message
  | .graphviz reason => "graphviz failed: " ++ reason

inductive DrawingOutcome where
  | missing
  | failed (complaint : String)
  | drawn (image : Option (List UInt8))
  deriving DecidableEq, Repr, Inhabited

abbrev DrawingProgram := String → DrawingOutcome

namespace Drawing

private def io {α : Type} (result : Except IoFault α) : Except RenderError α :=
  result.mapError .io

/-- Writes the drawing under the given base name. What is written stays when a later step fails. -/
def render (program : Option DrawingProgram) (output : String) (view : PathView)
    (remark : Option String) (files : Files) : Except RenderError Attachment × Files :=
  let source := Dot.source view remark
  match files.makeRoom output with
  | .error fault => (.error (.io fault), files)
  | .ok files =>
    match files.writeText (output ++ ".dot") source with
    | .error fault => (.error (.io fault), files)
    | .ok files =>
      match (program.map fun run => run source : Option DrawingOutcome) with
      | none => (.ok (.text source), files)
      | some .missing => (.error (.io .notFound), files)
      | some (.failed complaint) => (.error (.graphviz (trimmed complaint)), files)
      | some (.drawn image) =>
        let imagePath := output ++ ".png"
        let written : Except IoFault Files := match image with
          | none => .ok files
          | some bytes => files.write imagePath bytes
        match written with
        | .error fault => (.error (.io fault), files)
        | .ok files =>
          (io (files.read imagePath) |>.map fun bytes =>
            .image "image/png" (String.ofList (Utf8.base64 bytes)), files)

end Drawing

end PathAudit
