import PathAudit.Chat.Retry
import PathAudit.Chat.Script
import PathAudit.Json.Field

/-! Scripts, and what they are asked, written as JSON. Fields may be left out; only messages and
actions must have their full form. -/
namespace PathAudit

def ToolCall.ofFields (j : Json) : ToolCall :=
  ⟨j.strAt "id", j.strAt "name", j.valueAt "arguments"⟩

namespace GatewayError

def ofFields (j : Json) : GatewayError :=
  let message := j.strAt "message"
  match j.strAt "kind" with
  | "authentication_failed" => .authenticationFailed message
  | "context_window_exceeded" => .contextWindowExceeded message
  | "invalid_request" => .invalidRequest message
  | "network_error" => .networkError message
  | "malformed_response" => .malformedResponse message
  | "provider_overloaded" => .providerOverloaded
  | "rate_limited" => .rateLimited ((j.nat?At "retry_after_ms").map Span.millis)
  | "server_error" => .serverError (j.natAt "status" 0) (j.strAt "body")
  | _ => .timeout (Span.micros (j.natAt "micros" 0))

end GatewayError

/-- A finished message ends the turn unless it says otherwise. -/
def StreamEvent.ofFields (j : Json) : Except DecodeError StreamEvent := do
  match j.strAt "type" with
  | "start" => return .start
  | "text_delta" => return .textDelta (j.strAt "delta")
  | "tool_call_start" => return .callStart (j.strAt "id") (j.strAt "name")
  | "tool_call_end" => return .callEnd (.ofFields j)
  | "done" =>
    let m ← AssistantMessage.decoder.ofJson (j.valueAt "message")
    return .done m (m.stopReason.getD .endTurn)
  | _ => return .error (.ofFields (j.valueAt "error"))

namespace ScriptedResponse

def generatedId : String := "<generated>"

private def namedCall? : Json → Option ToolCall
  | .array [.string name, arguments] => some ⟨generatedId, name, arguments⟩
  | _ => none

def ofFields (j : Json) : Except DecodeError ScriptedResponse := do
  match j.field? "error", j.field? "stream_error", j.field? "events" with
  | some e, _, _ => return .failed (.ofFields e)
  | _, some e, _ => return .broken (.ofFields e)
  | _, _, some (.array events) => return { reply := .ok (← events.mapM StreamEvent.ofFields) }
  | _, _, _ =>
    match j.field? "calls", j.field? "auto_calls" with
    | some (.array calls), _ => return .ofCalls (j.strAt "text") (calls.map ToolCall.ofFields)
    | _, some (.array calls) => return .ofCalls "" (calls.filterMap namedCall?)
    | _, _ => return .ofText (j.strAt "text")

/-- A response behind up to `depth` waits, each around the next. -/
def ofNested : Nat → Json → Except DecodeError ScriptedResponse
  | 0, j => ofFields j
  | depth + 1, j =>
    match j.field? "then" with
    | some next =>
      (ofNested depth next).map (delayed (Span.millis (j.natAt "delay_ms" 0)))
    | none => ofFields j

end ScriptedResponse

/-- Waits nest no deeper than JSON text does. -/
def Script.ofItems (items : List Json) : Except DecodeError Script :=
  return .ofResponses (← items.mapM (ScriptedResponse.ofNested 128))

def ChatContext.ofFields (j : Json) : Except DecodeError ChatContext := do
  let messages ← (j.listAt "messages").mapM Message.decoder.ofJson
  let tools ← (j.listAt "tools").mapM ToolDefinition.decoder.ofJson
  return ⟨j.str?At "system", messages, tools⟩

def ChatOptions.ofFields (j : Json) : ChatOptions :=
  ⟨j.nat?At "max_tokens", j.double?At "temperature"⟩

/-- What is left out is as in the usual policy, but waits are left to chance only where it says
so. -/
def RetryPolicy.ofFields (j : Json) : RetryPolicy :=
  let usual : RetryPolicy := {}
  let span (key : String) (fallback : Nat) := ((j.nat?At key).map Span.millis).getD fallback
  ⟨j.natAt "max_retries" usual.maxRetries, span "base_delay_ms" usual.baseDelay,
    span "max_delay_ms" usual.maxDelay, (j.double?At "jitter_factor").getD (.zero false),
    j.natAt "threshold" usual.threshold, span "cooldown_ms" usual.cooldown⟩

end PathAudit
