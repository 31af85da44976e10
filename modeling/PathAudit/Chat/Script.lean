import PathAudit.Chat.Stream

/-! A scripted reasoner: it gives the responses of its script one after the other, keeps what it
was asked, and fails once the script is used up. -/
namespace PathAudit

structure ScriptedResponse where
  wait : Nat := 0
  reply : Reply
  deriving Inhabited

namespace ScriptedResponse

def ofText (text : String) : ScriptedResponse where
  reply := .ok [.start, .textDelta text, .done (.ofText text) .endTurn]

def ofCalls (text : String) (calls : List ToolCall) : ScriptedResponse where
  reply := .ok (
    .start :: calls.flatMap (fun call => [.callStart call.id call.name, .callEnd call]) ++
      [.done (.ofCalls text calls) .toolUse])

/-- A reply that opens and then ends in an error. -/
def broken (e : GatewayError) : ScriptedResponse where
  reply := .ok [.start, .error e]

def failed (e : GatewayError) : ScriptedResponse where
  reply := .error e

def delayed (wait : Nat) (response : ScriptedResponse) : ScriptedResponse :=
  { response with wait := min wait Span.longest + response.wait }

end ScriptedResponse

structure Script where
  responses : List ScriptedResponse
  asked : List ChatContext := []
  elapsed : Nat := 0
  deriving Inhabited

namespace Script

def ofResponses (responses : List ScriptedResponse) : Script := ⟨responses, [], 0⟩

def stream (context : ChatContext) (s : Script) : Reply × Script :=
  let asked := s.asked ++ [context]
  match s.responses with
  | response :: rest => (response.reply, ⟨rest, asked, s.elapsed + response.wait⟩)
  | [] =>
    (.error (.invalidRequest
      ("MockProvider: no response configured for call " ++ decimal asked.length)),
      { s with asked })

theorem asked_stream (context : ChatContext) (s : Script) :
    (s.stream context).2.asked = s.asked ++ [context] := by
  unfold stream
  cases s.responses <;> rfl

def provider (model : String) : Provider Script where
  model
  stream context _ s := s.stream context

end Script

end PathAudit
