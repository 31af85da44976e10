import PathAudit.Audit.Prompt
import PathAudit.Audit.World
import PathAudit.Reply.Decision

/-! The second opinion on a judgment. The verifier sees the conversation with one question added;
the conversation itself stays as it is. -/
namespace PathAudit.Gate

def question (attachment : Option Attachment) : UserMessage :=
  ⟨.text Prompt.verification :: (attachment.map (·.content)).toList⟩

def request (context : ChatContext) (attachment : Option Attachment) : ChatContext :=
  { context with messages := context.messages ++ [.user (question attachment)] }

def verify {σ : Type} (c : Collaborators σ) (options : ChatOptions) (context : ChatContext)
    (attachment : Option Attachment) (w : World σ) : Except GatewayError Decision × World σ :=
  let (reply, w) := w.ask c .verifier (request context attachment) options
  (reply.map fun message => .ofReply message.text, w)

end PathAudit.Gate
