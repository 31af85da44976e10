import PathAudit.Json.Decode
import PathAudit.Text.Basic

/-! The messages of a conversation and their JSON form. A message is tagged by its role and a piece
of content by its type; both tags stand beside the fields. -/
namespace PathAudit

structure TokenUsage where
  input : UInt32
  output : UInt32
  deriving DecidableEq, Repr, Inhabited

inductive StopReason where
  | endTurn
  | toolUse
  | maxTokens
  deriving DecidableEq, Repr, Inhabited

structure ToolCall where
  id : String
  name : String
  arguments : Json
  deriving Repr, Inhabited

inductive UserContent where
  | text (text : String)
  | image (mimeType data : String)
  deriving DecidableEq, Repr, Inhabited

inductive AssistantContent where
  | text (text : String)
  | toolCall (call : ToolCall)
  deriving Repr, Inhabited

structure UserMessage where
  content : List UserContent
  deriving DecidableEq, Repr, Inhabited

structure AssistantMessage where
  content : List AssistantContent
  usage : Option TokenUsage := none
  stopReason : Option StopReason := none
  deriving Repr, Inhabited

structure ToolResult where
  callId : String
  text : String
  isError : Bool := false
  deriving DecidableEq, Repr, Inhabited

inductive Message where
  | user (message : UserMessage)
  | assistant (message : AssistantMessage)
  | toolResult (message : ToolResult)
  deriving Repr, Inhabited

namespace StopReason

def all : List StopReason := [.endTurn, .toolUse, .maxTokens]

def name : StopReason → String
  | .endTurn => "end_turn"
  | .toolUse => "tool_use"
  | .maxTokens => "max_tokens"

def ofName? (text : String) : Option StopReason := all.find? (·.name == text)

theorem ofName?_name (reason : StopReason) : ofName? reason.name = some reason := by
  cases reason <;> decide

def decoder : Decoder StopReason := Decoder.unitVariant (all.map name) ofName?

theorem decoder_name (reason : StopReason) (origin : Origin) :
    decoder origin (.ofJson (.string reason.name)) = .ok reason := by
  cases reason <;> rfl

end StopReason

namespace TokenUsage

def toJson (u : TokenUsage) : Json :=
  .object [("input_tokens", .nat u.input.toNat), ("output_tokens", .nat u.output.toNat)]

private abbrev Draft := Option UInt32 × Option UInt32

private def fill : Decoder.Fill Draft := fun origin name raw draft => do
  let count := UInt32.ofNat (← Decoder.u32 origin raw)
  match name with
  | "input_tokens" => .ok (some count, draft.2)
  | _ => .ok (draft.1, some count)

def decoder : Decoder TokenUsage :=
  Decoder.fields "struct TokenUsage" [⟨"input_tokens", [], false⟩, ⟨"output_tokens", [], false⟩]
    (none, none) fill fun draft => do
      .ok ⟨← Decoder.require "input_tokens" draft.1, ← Decoder.require "output_tokens" draft.2⟩

private theorem u32_toNat (n : UInt32) (origin : Origin) :
    Decoder.u32 origin (.ofJson (.nat n.toNat)) = .ok n.toNat := by
  have fits : (0 : Int) ≤ n.toNat ∧ (n.toNat : Int) ≤ (Nat.pow 2 32 - 1 : Nat) := by
    have below : n.toNat < 4294967296 := n.toNat_lt
    have greatest : Nat.pow 2 32 - 1 = 4294967295 := rfl
    omega
  simp only [Decoder.u32, Decoder.natural, Decoder.integer, Json.nat, Raw.ofJson, if_pos fits]
  rfl

theorem decoder_toJson (u : TokenUsage) (origin : Origin) :
    decoder origin (.ofJson u.toJson) = .ok u := by
  simp [decoder, toJson, Decoder.fields, Raw.ofJson, Raw.ofMembers, Decoder.fillMembers,
    Decoder.Field.named, mapError_ok, fill, u32_toNat, Decoder.require, bind, Except.bind]

end TokenUsage

namespace ToolCall

def members (c : ToolCall) : List (String × Json) :=
  [("arguments", c.arguments), ("id", .string c.id), ("name", .string c.name)]

def toJson (c : ToolCall) : Json := .object c.members

private structure Draft where
  id : Option String := none
  name : Option String := none
  arguments : Option Json := none

private def fill : Decoder.Fill Draft := fun origin name raw draft =>
  match name with
  | "id" => do .ok { draft with id := some (← Decoder.text origin raw) }
  | "name" => do .ok { draft with name := some (← Decoder.text origin raw) }
  | _ => do .ok { draft with arguments := some (← Decoder.free origin raw) }

def decoder : Decoder ToolCall :=
  Decoder.fields "struct ToolCallBlock"
    [⟨"id", [], false⟩, ⟨"name", [], false⟩, ⟨"arguments", [], false⟩] {} fill fun draft => do
      .ok ⟨← Decoder.require "id" draft.id, ← Decoder.require "name" draft.name,
        ← Decoder.require "arguments" draft.arguments⟩

theorem decoder_toJson {c : ToolCall} {origin : Origin}
    (read : Decoder.free origin (.ofJson c.arguments) = .ok c.arguments) :
    decoder origin (.ofJson c.toJson) = .ok c := by
  have text (s : String) : Decoder.text origin (.string s) = .ok s := rfl
  simp [decoder, toJson, members, Decoder.fields, Raw.ofJson, Raw.ofMembers, Decoder.fillMembers,
    Decoder.Field.named, mapError_ok, fill, text, read, Decoder.require, bind, Except.bind]

end ToolCall

namespace UserContent

def isImage : UserContent → Bool
  | .image _ _ => true
  | .text _ => false

def text? : UserContent → Option String
  | .text shown => some shown
  | .image _ _ => none

def toJson : UserContent → Json
  | .text shown => .object [("text", .string shown), ("type", .string "text")]
  | .image mimeType data =>
    .object [("data", .string data), ("mime_type", .string mimeType), ("type", .string "image")]

private def textDecoder : Decoder UserContent :=
  Decoder.fields "struct variant UserContent::Text" [⟨"text", [], false⟩] none
    (fun origin _ raw _ => (Decoder.text origin raw).map some)
    fun text => (Decoder.require "text" text).map .text

private def imageFill : Decoder.Fill (Option String × Option String) :=
  fun origin name raw draft => do
    let text ← Decoder.text origin raw
    match name with
    | "mime_type" => .ok (some text, draft.2)
    | _ => .ok (draft.1, some text)

private def imageDecoder : Decoder UserContent :=
  Decoder.fields "struct variant UserContent::Image" [⟨"mime_type", [], false⟩, ⟨"data", [], false⟩]
    (none, none) imageFill fun draft => do
      .ok (.image (← Decoder.require "mime_type" draft.1) (← Decoder.require "data" draft.2))

def decoder : Decoder UserContent :=
  Decoder.tagged "internally tagged enum UserContent" "type" ["text", "image"] fun name =>
    match name with
    | "text" => some textDecoder
    | "image" => some imageDecoder
    | _ => none

theorem decoder_toJson (c : UserContent) (origin : Origin) :
    decoder origin (.ofJson c.toJson) = .ok c := by
  cases c <;> rfl

end UserContent

namespace AssistantContent

def text? : AssistantContent → Option String
  | .text shown => some shown
  | .toolCall _ => none

def call? : AssistantContent → Option ToolCall
  | .toolCall call => some call
  | .text _ => none

def toJson : AssistantContent → Json
  | .text shown => .object [("text", .string shown), ("type", .string "text")]
  | .toolCall call => .object (call.members ++ [("type", .string "tool_call")])

private def textDecoder : Decoder AssistantContent :=
  Decoder.fields "struct variant AssistantContent::Text" [⟨"text", [], false⟩] none
    (fun origin _ raw _ => (Decoder.text origin raw).map some)
    fun text => (Decoder.require "text" text).map .text

def decoder : Decoder AssistantContent :=
  Decoder.tagged "internally tagged enum AssistantContent" "type" ["text", "tool_call"] fun name =>
    match name with
    | "text" => some textDecoder
    | "tool_call" => some fun origin raw => (ToolCall.decoder origin raw).map .toolCall
    | _ => none

theorem decoder_toJson {c : AssistantContent}
    (read : ∀ call ∈ c.call?, Decoder.free .buffer (.ofJson call.arguments) = .ok call.arguments)
    (origin : Origin) : decoder origin (.ofJson c.toJson) = .ok c := by
  cases c with
  | text shown => rfl
  | toolCall call =>
    have found : (call.members ++ [("type", Json.string "tool_call")]).lookup "type" =
        some (.string "tool_call") := rfl
    have others : (call.members ++ [("type", Json.string "tool_call")]).filter (·.1 != "type") =
        call.members := rfl
    rw [decoder, toJson, Decoder.tagged_ofJson found rfl, others]
    exact congrArg (Except.map AssistantContent.toolCall)
      (ToolCall.decoder_toJson (read call rfl))

end AssistantContent

namespace UserMessage

def ofText (text : String) : UserMessage := ⟨[.text text]⟩

def text (m : UserMessage) : String := joined "\n" (m.content.filterMap (·.text?))

def imageCount (m : UserMessage) : Nat := m.content.countP (·.isImage)

def hasImage (m : UserMessage) : Bool := m.content.any (·.isImage)

def members (m : UserMessage) : List (String × Json) :=
  [("content", .array (m.content.map UserContent.toJson))]

def decoder : Decoder UserMessage :=
  Decoder.fields "struct UserMessage" [⟨"content", [], false⟩] none
    (fun origin _ raw _ => (Decoder.list UserContent.decoder origin raw).map some)
    fun content => (Decoder.require "content" content).map UserMessage.mk

theorem decoder_members (m : UserMessage) (origin : Origin) :
    decoder origin (.ofJson (.object m.members)) = .ok m := by
  have content : Decoder.list UserContent.decoder origin
      (.ofJson (.array (m.content.map UserContent.toJson))) = .ok m.content :=
    Decoder.list_ofJson fun c _ => c.decoder_toJson origin
  have object (members : List (String × Json)) :
      Raw.ofJson (.object members) = .object (Raw.ofMembers members) .closed := rfl
  simp [decoder, members, Decoder.fields, object, Raw.ofMembers, Decoder.fillMembers,
    Decoder.Field.named, mapError_ok, content, Decoder.require, bind, Except.bind, Except.map]

end UserMessage

namespace AssistantMessage

def ofText (text : String) : AssistantMessage := ⟨[.text text], none, some .endTurn⟩

/-- A reply that asks for actions; an empty text is left out. -/
def ofCalls (text : String) (calls : List ToolCall) : AssistantMessage :=
  ⟨(if text.isEmpty then [] else [.text text]) ++ calls.map .toolCall, none, some .toolUse⟩

def calls (m : AssistantMessage) : List ToolCall := m.content.filterMap (·.call?)

def text (m : AssistantMessage) : String := joined "" (m.content.filterMap (·.text?))

theorem calls_ofCalls (text : String) (calls : List ToolCall) :
    (ofCalls text calls).calls = calls := by
  have none :
      (if text.isEmpty then [] else [AssistantContent.text text]).filterMap (·.call?) = [] := by
    split <;> rfl
  have all : (AssistantContent.call? ∘ AssistantContent.toolCall) = some := rfl
  rw [AssistantMessage.calls, ofCalls, List.filterMap_append, none, List.nil_append,
    List.filterMap_map, all, List.filterMap_some]

theorem text_ofCalls (text : String) (calls : List ToolCall) :
    (ofCalls text calls).text = text := by
  have rest : (calls.map AssistantContent.toolCall).filterMap (·.text?) = [] := by
    rw [List.filterMap_map]
    exact List.filterMap_eq_nil_iff.mpr fun call _ => rfl
  rw [AssistantMessage.text, ofCalls, List.filterMap_append, rest, List.append_nil]
  cases empty : text.isEmpty with
  | true => exact (String.isEmpty_iff.mp empty).symm
  | false => exact String.ofList_toList

def hasCalls (m : AssistantMessage) : Bool := !m.calls.isEmpty

def members (m : AssistantMessage) : List (String × Json) :=
  [("content", .array (m.content.map AssistantContent.toJson))] ++
    (m.stopReason.map fun reason => ("stop_reason", .string reason.name)).toList ++
    (m.usage.map fun usage => ("usage", usage.toJson)).toList

def toJson (m : AssistantMessage) : Json := .object m.members

private structure Draft where
  content : Option (List AssistantContent) := none
  usage : Option TokenUsage := none
  stopReason : Option StopReason := none

private def fill : Decoder.Fill Draft := fun origin name raw draft =>
  match name with
  | "content" => do
    .ok { draft with content := some (← Decoder.list AssistantContent.decoder origin raw) }
  | "usage" => do .ok { draft with usage := ← Decoder.option TokenUsage.decoder origin raw }
  | _ => do .ok { draft with stopReason := ← Decoder.option StopReason.decoder origin raw }

def decoder : Decoder AssistantMessage :=
  Decoder.fields "struct AssistantMessage"
    [⟨"content", [], false⟩, ⟨"usage", [], false⟩, ⟨"stop_reason", [], false⟩] {} fill
    fun draft => do
      .ok ⟨← Decoder.require "content" draft.content, draft.usage, draft.stopReason⟩

theorem decoder_members {m : AssistantMessage} {origin : Origin}
    (read : ∀ call ∈ m.calls, Decoder.free .buffer (.ofJson call.arguments) = .ok call.arguments) :
    decoder origin (.ofJson (.object m.members)) = .ok m := by
  obtain ⟨content, usage, stopReason⟩ := m
  have contents : Decoder.list AssistantContent.decoder origin
      (.ofJson (.array (content.map AssistantContent.toJson))) = .ok content := by
    refine Decoder.list_ofJson fun c inside => c.decoder_toJson (fun call asked => ?_) origin
    exact read call (List.mem_filterMap.mpr ⟨c, inside, asked⟩)
  have object (members : List (String × Json)) :
      Raw.ofJson (.object members) = .object (Raw.ofMembers members) .closed := rfl
  have spent (u : TokenUsage) :
      Decoder.option TokenUsage.decoder origin (.ofJson u.toJson) = .ok (some u) :=
    congrArg (Except.map some) (u.decoder_toJson origin)
  have stopped (reason : StopReason) :
      Decoder.option StopReason.decoder origin (.ofJson (.string reason.name)) =
        .ok (some reason) :=
    congrArg (Except.map some) (reason.decoder_name origin)
  cases usage <;> cases stopReason <;>
    simp [decoder, members, Decoder.fields, object, Raw.ofMembers, Decoder.fillMembers,
      Decoder.Field.named, mapError_ok, fill, contents, spent, stopped, Decoder.require, bind,
      Except.bind]

end AssistantMessage

namespace ToolResult

def members (r : ToolResult) : List (String × Json) :=
  [("is_error", .bool r.isError), ("text", .string r.text), ("tool_call_id", .string r.callId)]

private structure Draft where
  callId : Option String := none
  text : Option String := none
  isError : Bool := false

private def fill : Decoder.Fill Draft := fun origin name raw draft =>
  match name with
  | "tool_call_id" => do .ok { draft with callId := some (← Decoder.text origin raw) }
  | "text" => do .ok { draft with text := some (← Decoder.text origin raw) }
  | _ => do .ok { draft with isError := ← Decoder.bool origin raw }

def decoder : Decoder ToolResult :=
  Decoder.fields "struct ToolResultMessage"
    [⟨"tool_call_id", [], false⟩, ⟨"text", [], false⟩, ⟨"is_error", [], true⟩] {} fill
    fun draft => do
      .ok ⟨← Decoder.require "tool_call_id" draft.callId, ← Decoder.require "text" draft.text,
        draft.isError⟩

theorem decoder_members (r : ToolResult) (origin : Origin) :
    decoder origin (.ofJson (.object r.members)) = .ok r := by
  rfl

end ToolResult

namespace Message

def userText (text : String) : Message := .user (.ofText text)

def assistantText (text : String) : Message := .assistant (.ofText text)

def text : Message → String
  | .user m => m.text
  | .assistant m => m.text
  | .toolResult m => m.text

def imageCount : Message → Nat
  | .user m => m.imageCount
  | _ => 0

def toJson : Message → Json
  | .user m => .object (m.members ++ [("role", .string "user")])
  | .assistant m => .ofMembers (m.members ++ [("role", .string "assistant")])
  | .toolResult m => .ofMembers (m.members ++ [("role", .string "tool_result")])

def decoder : Decoder Message :=
  Decoder.tagged "internally tagged enum Message" "role" ["user", "assistant", "tool_result"]
    fun name =>
    match name with
    | "user" => some fun origin raw => (UserMessage.decoder origin raw).map .user
    | "assistant" => some fun origin raw => (AssistantMessage.decoder origin raw).map .assistant
    | "tool_result" => some fun origin raw => (ToolResult.decoder origin raw).map .toolResult
    | _ => none

end Message

end PathAudit
