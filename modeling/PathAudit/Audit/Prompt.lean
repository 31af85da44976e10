import PathAudit.Number.Decimal
import PathAudit.Text.Basic

/-! The texts sent to the reasoners. -/
namespace PathAudit.Prompt

def system : String :=
  "You are a security auditor reviewing one candidate attack path in a Python codebase. " ++
  "The path runs from an entry point, where external input can enter, to a dangerous " ++
  "sink.\n" ++
  "\n" ++
  "Your job is to decide whether attacker-controlled data can really reach the sink in a " ++
  "way that makes it exploitable. Work through the call graph you are shown:\n" ++
  "- Each node is a function. Text under a node is what is already known about it.\n" ++
  "- Use inspect_function to read a function's source and list_callees to see what it " ++
  "calls.\n" ++
  "- Use add_new_function to pull a relevant callee into the graph.\n" ++
  "- Use compress_call_chain to fold a linear chain of uninteresting functions into one " ++
  "edge.\n" ++
  "- Use update_function_node to record taint_propagation, security_sanitizer, summary or " ++
  "key_codes findings.\n" ++
  "\n" ++
  "Do not fetch information that is already shown on the graph.\n" ++
  "\n" ++
  "When you have enough evidence, stop calling tools and answer with a JSON object in a " ++
  "```json block:\n" ++
  "\x7b\n" ++
  "  \"external_input_taint_analysis\": \"how external input flows along the path\",\n" ++
  "  \"security_sanitization_analysis\": \"sanitizers or validation on the path, or why " ++
  "there are none\",\n" ++
  "  \"unsecure_call_analysis\": \"conditions under which the sink call is exploitable\",\n" ++
  "  \"to_be_confirmed\": \"anything you could not verify\",\n" ++
  "  \"is_vulnerable\": true\n" ++
  "\x7d"

/-- Stands above the graph in every request. -/
def graph : String :=
  "This is the latest call graph of the attack path. Node names are function names; the " ++
  "text under each node is information already retrieved, do not fetch it again."

def verification : String :=
  "Double-check the conclusion above against the conversation and the call graph. Is the " ++
  "analysis accurate and complete? If important functions were not inspected or a claim is " ++
  "not backed by code you have seen, it is not complete.\n" ++
  "\n" ++
  "Answer with a JSON object in a ```json block:\n" ++
  "\x7b\n" ++
  "  \"is_accurate_and_complete\": true,\n" ++
  "  \"feedback\": \"what is wrong or missing, or why the conclusion holds\",\n" ++
  "  \"is_vulnerable\": true\n" ++
  "\x7d\n" ++
  "Only include is_vulnerable when is_accurate_and_complete is true."

def rejection : String :=
  "Conclusion rejected! Further tool calls are needed to supply information:\n"

def repeatedCall : String :=
  "Repeated call! Existing result: "

def fixUnparsable : String :=
  "Your response could not be parsed as JSON. Fix it and reply with the JSON object only."

def fixKeyCodes : String :=
  "key_codes_in_function is too long. Simplify it and keep only the key code and " ++
  "variables. Only return the simplified key_codes_in_function field as a JSON object."

def focuses : List String := [
  "taint propagation: which variables are passed to downstream functions of the call " ++
    "graph? Are they taint sources (attacker-controllable files, network data) or could they " ++
    "carry taint?",
  "taint propagation: when calling downstream functions, does this function propagate " ++
    "tainted variables, and which ones?",
  "security sanitizer: does the code check tainted variables in a way that prevents the " ++
    "vulnerability at the vulnerable_sink?",
  "security sanitizer: does the code implement a sanitization specific to the " ++
    "vulnerable_sink?",
  "security sanitizer: which configuration is used when calling downstream functions, and " ++
    "is it secure?"]

private def numbered (n : Nat) : List String → List String
  | [] => []
  | line :: rest => (decimal n ++ ". " ++ line) :: numbered (n + 1) rest

def extraction (function body : String) (targets : List String) : String :=
  let calls := if targets.isEmpty then "(none)" else joined ", " targets
  "Analyze the function `" ++ function ++ "` on a candidate attack path.\n\n" ++
  "```python\n" ++ body ++ "\n```\n\n" ++
  "Calls of interest: " ++ calls ++ "\n\n" ++
  "Focus on:\n" ++ joined "\n" (numbered 1 focuses) ++ "\n\n" ++
  "Reply with a JSON object in a ```json block with the fields " ++
  "summary, is_taint_propagation, taint_propagation_analysis, " ++
  "is_security_sanitizer, security_sanitizer_analysis, key_codes_in_function."

end PathAudit.Prompt
