import PathAudit.Audit.Excerpt
import PathAudit.Audit.Prompt
import PathAudit.Audit.World
import PathAudit.Reply.Reading

/-! The findings of one function, asked of a reasoner. A reply that cannot be read or quotes too
much code is corrected once; whatever happens, something is found. -/
namespace PathAudit.Extraction

def target : String := "aegis_engine::extraction"

def defaultMaxKeyCodeLines : Nat := 15

structure Config where
  options : ChatOptions := {}
  maxKeyCodeLines : Nat := defaultMaxKeyCodeLines

abbrev Members := List (String × Json)

def keyCodeLines (m : Members) : Nat :=
  ((m.lookup "key_codes_in_function").map fun v => (linesOf v.plainText).length).getD 0

def flag (m : Members) (key : String) : Bool := ((m.lookup key).bind Json.flag?).getD false

def text (m : Members) (key : String) : String := ((m.lookup key).map Json.plainText).getD ""

/-- The summary, or all that was said when there is none. -/
def summary (m : Members) : String :=
  let s := text m "summary"
  if s.isEmpty then (Json.object m).compact else s

def findings (m : Members) : Findings :=
  let sanitizer := flag m "is_security_sanitizer"
  let taint := flag m "is_taint_propagation"
  let keyCodes := text m "key_codes_in_function"
  .ofList (
    (if sanitizer then [(.securitySanitizer, text m "security_sanitizer_analysis")] else []) ++
    (if taint then [(.taintPropagation, text m "taint_propagation_analysis")] else []) ++
    (if sanitizer || taint then [] else [(.summary, summary m)]) ++
    (if isBlankText keyCodes then [] else [(.keyCodes, keyCodes)]))

def summaryOnly (s : String) : Findings := .ofList [(.summary, s)]

def fix? (limit : Nat) : Except ReplyError Members → Option String
  | .error _ => some Prompt.fixUnparsable
  | .ok m => if keyCodeLines m > limit then some Prompt.fixKeyCodes else none

def corrected (old : Option Members) (new : Members) : Members :=
  new.foldl (fun m (key, value) => putMember key value m) (old.getD [])

def question (function body : String) (callees : List FunctionId) (sink : FunctionId)
    (attachment : Option Attachment) : UserMessage :=
  ⟨.text (Prompt.extraction function (Excerpt.ofBody body callees sink) callees) ::
    (attachment.map (·.content)).toList⟩

variable {σ : Type}

def correct (c : Collaborators σ) (config : Config) (context : ChatContext)
    (first : AssistantMessage) (fix : String) (old : Option Members) (w : World σ) :
    Option Members × World σ :=
  let w := w.tell [.warn target "extraction response needs correction" [("reason", .string fix)]]
  let context := { context with
    messages := context.messages ++ [.assistant first, .userText fix] }
  match w.ask c .extractThink context config.options with
  | (.error e, w) =>
    (old, w.tell [.warn target "correction request failed" [Notice.shown "error" e.message]])
  | (.ok reply, w) =>
    match Reply.members reply.text with
    | .ok new => (some (corrected old new), w)
    | .error e =>
      (old, w.tell [.warn target "correction is not parsable" [Notice.shown "error" e.message]])

def analyze (c : Collaborators σ) (config : Config) (function : FunctionId) (body : String)
    (callees : List FunctionId) (sink : FunctionId) (attachment : Option Attachment)
    (w : World σ) : Findings × World σ :=
  let context := ChatContext.single none (question function body callees sink attachment)
  match w.ask c .extract context config.options with
  | (.error e, w) =>
    (summaryOnly ("analysis unavailable: " ++ e.message),
      w.tell [.warn target "extraction request failed" [Notice.shown "error" e.message]])
  | (.ok first, w) =>
    let parsed := Reply.members first.text
    let (analysis, w) :=
      match fix? config.maxKeyCodeLines parsed with
      | some fix => correct c config context first fix parsed.toOption w
      | none => (parsed.toOption, w)
    match analysis with
    | some m => (findings m, w)
    | none =>
      (summaryOnly (trimmed first.text),
        w.tell [.warn target "keeping raw extraction text as summary" []])

end PathAudit.Extraction
