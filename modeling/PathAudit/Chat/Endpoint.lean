import PathAudit.Address.Basic
import PathAudit.Chat.Stream

/-! A model behind a chat-completions service: where its requests go, and the requests that cannot
even be built. -/
namespace PathAudit

structure Endpoint where
  /-- Address up to and including the version, such as `http://host:8000/v1`. -/
  baseUrl : String
  apiKey : Option String := none
  model : String
  deriving Repr, Inhabited

namespace Endpoint

def name : String := "openai-compatible"

def url (e : Endpoint) : String :=
  String.ofList (e.baseUrl.toList.reverse.dropWhile (· == '/')).reverse ++ "/chat/completions"

def isHeaderChar (c : Char) : Bool := c == '\t' || (0x20 ≤ c.toNat && c.toNat != 0x7F)

/-- Why a request is never sent, if it is not. Who asks is left out of what is shown, once the
address has been found to have a host. -/
def refusal? (e : Endpoint) : Option GatewayError :=
  let refused (a : Address) : GatewayError :=
    .networkError ("builder error for url (" ++ a.shown ++ ")")
  match Address.ofText? e.url with
  | none => some (.networkError "builder error")
  | some a =>
    if a.host?.isNone then some (refused a)
    else if (e.apiKey.getD "").toList.any (!isHeaderChar ·) then
      some (.networkError "builder error")
    else if a.isRequestable then none
    else some (refused a.withoutUser)

/-- What asking comes to where no service can be reached. -/
def unreachable (e : Endpoint) : GatewayError :=
  e.refusal?.getD (.networkError ("error sending request for url (" ++
    ((Address.ofText? e.url).map (·.withoutUser.shown)).getD e.url ++ ")"))

def provider {σ : Type} (e : Endpoint) : Provider σ where
  model := e.model
  stream _ _ s := (.error e.unreachable, s)

end Endpoint

end PathAudit
