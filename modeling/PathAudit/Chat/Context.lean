import PathAudit.Chat.Message
import PathAudit.Number.Total

/-! What a reasoner is given for one request: a system prompt, the messages so far and the actions
it may ask for. -/
namespace PathAudit

structure ToolDefinition where
  name : String
  description : String
  parameters : Json
  deriving Repr, Inhabited

structure ChatContext where
  system : Option String := none
  messages : List Message := []
  tools : List ToolDefinition := []
  deriving Repr, Inhabited

structure ChatOptions where
  maxTokens : Option Nat := none
  temperature : Option Double := none
  deriving Repr, Inhabited

/-- The drawing sent along with a request: an image in base 64, or the drawing's source. -/
inductive Attachment where
  | image (mimeType data : String)
  | text (source : String)
  deriving DecidableEq, Repr, Inhabited

namespace ToolDefinition

def toJson (t : ToolDefinition) : Json :=
  .object [("description", .string t.description), ("name", .string t.name),
    ("parameters_schema", t.parameters)]

private structure Draft where
  name : Option String := none
  description : Option String := none
  parameters : Option Json := none

private def fill : Decoder.Fill Draft := fun origin name raw draft =>
  match name with
  | "name" => do .ok { draft with name := some (← Decoder.text origin raw) }
  | "description" => do .ok { draft with description := some (← Decoder.text origin raw) }
  | _ => do .ok { draft with parameters := some (← Decoder.free origin raw) }

def decoder : Decoder ToolDefinition :=
  Decoder.fields "struct ToolDefinition"
    [⟨"name", [], false⟩, ⟨"description", [], false⟩, ⟨"parameters_schema", [], false⟩] {} fill
    fun draft => do
      .ok ⟨← Decoder.require "name" draft.name, ← Decoder.require "description" draft.description,
        ← Decoder.require "parameters_schema" draft.parameters⟩

end ToolDefinition

namespace ChatContext

def single (system : Option String) (question : UserMessage) : ChatContext :=
  ⟨system, [.user question], []⟩

def imageCount (c : ChatContext) : Nat := total Message.imageCount c.messages

end ChatContext

namespace Attachment

def content : Attachment → UserContent
  | .image mimeType data => .image mimeType data
  | .text source => .text source

def isImage : Attachment → Bool
  | .image _ _ => true
  | .text _ => false

def toJson : Attachment → Json
  | .image mimeType data =>
    .object [("data", .string data), ("kind", .string "image"), ("mime_type", .string mimeType)]
  | .text source => .object [("kind", .string "text"), ("text", .string source)]

private def imageFill : Decoder.Fill (Option String × Option String) :=
  fun origin name raw draft => do
    let value ← Decoder.text origin raw
    match name with
    | "mime_type" => .ok (some value, draft.2)
    | _ => .ok (draft.1, some value)

private def imageDecoder : Decoder Attachment :=
  Decoder.fields "struct variant Attachment::Image" [⟨"mime_type", [], false⟩, ⟨"data", [], false⟩]
    (none, none) imageFill fun draft => do
      .ok (.image (← Decoder.require "mime_type" draft.1) (← Decoder.require "data" draft.2))

private def textDecoder : Decoder Attachment :=
  Decoder.fields "struct variant Attachment::Text" [⟨"text", [], false⟩] none
    (fun origin _ raw _ => (Decoder.text origin raw).map some)
    fun source => (Decoder.require "text" source).map .text

def decoder : Decoder Attachment :=
  Decoder.tagged "internally tagged enum Attachment" "kind" ["image", "text"] fun name =>
    match name with
    | "image" => some imageDecoder
    | "text" => some textDecoder
    | _ => none

end Attachment

end PathAudit
