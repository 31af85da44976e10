import PathAudit.Chat.Context
import PathAudit.Chat.Gateway

/-! The events of a reply. A reply starts, tells its text and its calls, and ends in a finished
message or an error; the first of the two decides. -/
namespace PathAudit

inductive StreamEvent where
  | start
  | textDelta (delta : String)
  | callStart (id name : String)
  | callEnd (call : ToolCall)
  | done (message : AssistantMessage) (stopReason : StopReason)
  | error (error : GatewayError)
  deriving Repr, Inhabited

/-- A reply that opened, or the error that kept it from opening. -/
abbrev Reply := Except GatewayError (List StreamEvent)

namespace StreamEvent

def isTerminal : StreamEvent → Bool
  | .done _ _ | .error _ => true
  | _ => false

/-- What the first terminal event says. -/
def settle : List StreamEvent → Except GatewayError AssistantMessage
  | [] => .error (.malformedResponse "stream ended without a terminal event")
  | .done message _ :: _ => .ok message
  | .error e :: _ => .error e
  | _ :: rest => settle rest

theorem settle_of_no_terminal (events rest : List StreamEvent)
    (open_ : ∀ e ∈ events, e.isTerminal = false) : settle (events ++ rest) = settle rest := by
  induction events with
  | nil => rfl
  | cons e events ih =>
    have head := open_ e (by simp)
    have tail := ih fun e inside => open_ e (by simp [inside])
    cases e <;> simp_all [settle, isTerminal]

end StreamEvent

def Reply.complete : Reply → Except GatewayError AssistantMessage
  | .ok events => StreamEvent.settle events
  | .error e => .error e

/-- Someone who answers requests. The state is everything the answers depend on besides the
request. -/
structure Provider (σ : Type) where
  model : String
  stream : ChatContext → ChatOptions → σ → Reply × σ

end PathAudit
