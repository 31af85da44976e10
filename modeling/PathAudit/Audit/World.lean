import PathAudit.Audit.Session
import PathAudit.Chat.Stream
import PathAudit.Drawing.Render
import PathAudit.Graph.Resolver
import PathAudit.Store.Events

/-! Those an audit works with, and the world as it leaves it. The collaborators may do what they
like with their own state; the world keeps beside it what the audit asked and was told, what it
stored and what it warned of. -/
namespace PathAudit

inductive Role where
  | instruct
  | think
  | verifier
  | extract
  | extractThink
  deriving DecidableEq, Repr, Inhabited

structure Collaborators (σ : Type) where
  /-- The code base. It is only read, and nobody changes it while an audit runs: of all that is
  asked of the collaborators this alone does not depend on their state. -/
  resolver : Resolver
  model : Role → String
  ask : Role → ChatContext → ChatOptions → σ → Reply × σ
  draw : String → PathView → Option String → σ → Except RenderError Attachment × σ

structure Exchange where
  role : Role
  request : ChatContext
  reply : Except GatewayError AssistantMessage

structure World (σ : Type) where
  outside : σ
  store : Store := {}
  exchanges : List Exchange := []
  drawn : Nat := 0
  notices : List Notice := []

namespace World

variable {σ : Type}

def tell (w : World σ) (notices : List Notice) : World σ :=
  { w with notices := w.notices ++ notices }

def ask (w : World σ) (c : Collaborators σ) (role : Role) (context : ChatContext)
    (options : ChatOptions) : Except GatewayError AssistantMessage × World σ :=
  let (reply, outside) := c.ask role context options w.outside
  (reply.complete,
    { w with outside, exchanges := w.exchanges ++ [⟨role, context, reply.complete⟩] })

def draw (w : World σ) (c : Collaborators σ) (path : String) (view : PathView)
    (remark : Option String) : Except RenderError Attachment × World σ :=
  let (result, outside) := c.draw path view remark w.outside
  (result, { w with outside, drawn := w.drawn + 1 })

/-- Adds to the transcript of the path; a failure is only warned of. -/
def record (w : World σ) (key : String) (kind : EventKind) (payload : Json) : World σ :=
  match w.store.append key kind payload with
  | .ok (store, _) => { w with store }
  | .error e =>
    w.tell [(Notice.warn "aegis_engine::audit" "failed to append audit event"
      [Notice.shown "error" e.message, Notice.shown "kind" kind.name]).under key]

end World

end PathAudit
