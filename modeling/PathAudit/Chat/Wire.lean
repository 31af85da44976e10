import PathAudit.Chat.Stream
import PathAudit.Json.Field
import PathAudit.Json.Printer

/-! The chat-completions format: the body of a request and the reading of a reply. A call's
arguments travel as JSON text inside a string. -/
namespace PathAudit.Wire

def userContent : UserContent → Json
  | .text text => .object [("text", .string text), ("type", .string "text")]
  | .image mimeType data =>
    .object [("image_url", .object [("url", .string ("data:" ++ mimeType ++ ";base64," ++ data))]),
      ("type", .string "image_url")]

def call (c : ToolCall) : Json :=
  .object [
    ("function", .object [("arguments", .string c.arguments.compact), ("name", .string c.name)]),
    ("id", .string c.id), ("type", .string "function")]

def message : Message → Json
  | .user m =>
    .object [("content", .array (m.content.map userContent)), ("role", .string "user")]
  | .assistant m =>
    .object ([("content", if m.text.isEmpty then .null else .string m.text),
      ("role", .string "assistant")] ++
      if m.calls.isEmpty then [] else [("tool_calls", .array (m.calls.map call))])
  | .toolResult m =>
    .object [("content", .string m.text), ("role", .string "tool"),
      ("tool_call_id", .string m.callId)]

def tool (t : ToolDefinition) : Json :=
  .object [
    ("function", .object [("description", .string t.description), ("name", .string t.name),
      ("parameters", t.parameters)]),
    ("type", .string "function")]

def systemMessage (prompt : String) : Json :=
  .object [("content", .string prompt), ("role", .string "system")]

def messages (c : ChatContext) : List Json :=
  (c.system.map systemMessage).toList ++ c.messages.map message

def request (c : ChatContext) (options : ChatOptions) (model : String) : Json :=
  .ofMembers (
    [("model", .string model), ("stream", .bool false), ("messages", .array (messages c))] ++
    (options.maxTokens.map fun n => ("max_tokens", .nat n)).toList ++
    (options.temperature.map fun x => ("temperature", .float x)).toList ++
    if c.tools.isEmpty then []
    else [("tools", .array (c.tools.map tool)), ("tool_choice", .string "auto")])

private def malformed {α : Type} (reason : String) : Except GatewayError α :=
  .error (.malformedResponse reason)

/-- Text that is not JSON stays text, so that whoever decodes the call can report it. -/
def arguments : Option Json → Json
  | some (.string text) =>
    match Json.parse text with
    | .ok v => v
    | .error _ => .string text
  | some v => v
  | none => .object []

/-- A call without an id is given the fresh one. -/
def readCall (fresh : String) (v : Json) : Except GatewayError ToolCall :=
  match v.get? "function" with
  | none => malformed "tool call has no function"
  | some function =>
    match function.str?At "name" with
    | none => malformed "tool call has no name"
    | some name =>
      .ok ⟨(v.str?At "id").getD fresh, name, arguments (function.get? "arguments")⟩

def readCalls (fresh : Nat → String) : Nat → List Json → Except GatewayError (List ToolCall)
  | _, [] => .ok []
  | n, v :: rest => do
    let c ← readCall (fresh n) v
    let more ← readCalls fresh (n + 1) rest
    .ok (c :: more)

/-- A count that does not fit is the greatest one that does. -/
def tokenCount (usage : Json) (key : String) : UInt32 :=
  match usage.nat?At key with
  | some n => UInt32.ofNat (min n (Nat.pow 2 32 - 1))
  | none => 0

def readUsage (body : Json) : Option TokenUsage :=
  (body.get? "usage").map fun usage =>
    ⟨tokenCount usage "prompt_tokens", tokenCount usage "completion_tokens"⟩

def stopReason (finish : Option String) (calls : List ToolCall) : StopReason :=
  if finish = some "length" then .maxTokens
  else if calls.isEmpty then .endTurn
  else .toolUse

def response (fresh : Nat → String) (body : Json) :
    Except GatewayError (AssistantMessage × StopReason) :=
  match body.listAt "choices" with
  | [] => malformed "response has no choices"
  | choice :: _ =>
    match choice.get? "message" with
    | none => malformed "choice has no message"
    | some message => do
      let text := message.strAt "content"
      let calls ← readCalls fresh 0 (message.listAt "tool_calls")
      let reason := stopReason (choice.str?At "finish_reason") calls
      let content := (if text.isEmpty then [] else [.text text]) ++ calls.map .toolCall
      .ok (⟨content, readUsage body, some reason⟩, reason)

end PathAudit.Wire
