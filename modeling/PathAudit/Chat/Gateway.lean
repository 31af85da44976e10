import PathAudit.Chat.Span

/-! Failures of a reasoning service. A fatal one ends the session, a retryable one may be asked
again; a reply that cannot be understood is neither. -/
namespace PathAudit

inductive GatewayError where
  | authenticationFailed (reason : String)
  | contextWindowExceeded (reason : String)
  | invalidRequest (reason : String)
  | rateLimited (retryAfter : Option Nat)
  | serverError (status : Nat) (body : String)
  | providerOverloaded
  | networkError (reason : String)
  | timeout (after : Nat)
  | malformedResponse (reason : String)
  deriving DecidableEq, Repr, Inhabited

namespace GatewayError

def kind : GatewayError → String
  | .authenticationFailed _ => "authentication_failed"
  | .contextWindowExceeded _ => "context_window_exceeded"
  | .invalidRequest _ => "invalid_request"
  | .rateLimited _ => "rate_limited"
  | .serverError _ _ => "server_error"
  | .providerOverloaded => "provider_overloaded"
  | .networkError _ => "network_error"
  | .timeout _ => "timeout"
  | .malformedResponse _ => "malformed_response"

def message : GatewayError → String
  | .authenticationFailed reason => "authentication failed: " ++ reason
  | .contextWindowExceeded reason => "context window exceeded: " ++ reason
  | .invalidRequest reason => "invalid request: " ++ reason
  | .rateLimited _ => "rate limited"
  | .serverError status body => "server error " ++ decimal status ++ ": " ++ body
  | .providerOverloaded => "provider overloaded"
  | .networkError reason => "network error: " ++ reason
  | .timeout after => "timeout after " ++ Span.text after
  | .malformedResponse reason => "malformed response: " ++ reason

def isRetryable : GatewayError → Bool
  | .rateLimited _ | .serverError _ _ | .providerOverloaded | .networkError _ | .timeout _ => true
  | _ => false

def isFatal : GatewayError → Bool
  | .authenticationFailed _ | .contextWindowExceeded _ | .invalidRequest _ => true
  | _ => false

theorem not_retryable_of_fatal (e : GatewayError) (fatal : e.isFatal = true) :
    e.isRetryable = false := by
  cases e <;> simp_all [isFatal, isRetryable]

def suggestedDelay : GatewayError → Option Nat
  | .rateLimited retryAfter => retryAfter
  | _ => none

/-- The failure that a status other than success stands for. -/
def ofStatus (status : Nat) (body : String) : GatewayError :=
  match status with
  | 401 | 403 => .authenticationFailed body
  | 413 => .contextWindowExceeded body
  | 400 =>
    if occursIn "maximum context length" body then .contextWindowExceeded body
    else .invalidRequest body
  | 404 | 422 => .invalidRequest body
  | 408 => .timeout 0
  | 429 => .rateLimited none
  | 503 | 529 => .providerOverloaded
  | status =>
    if 500 ≤ status ∧ status ≤ 599 then .serverError status body
    else .invalidRequest ("unexpected status " ++ decimal status ++ ": " ++ body)

end GatewayError

end PathAudit
