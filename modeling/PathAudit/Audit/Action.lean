import PathAudit.Chat.Context
import PathAudit.Dict
import PathAudit.Graph.Function
import PathAudit.Json.Printer

/-! The actions a reasoner may ask for, their schemas, and the decoding of calls. -/
namespace PathAudit

inductive Action where
  | addFunction (function : String) (callers : List FunctionId)
  | compress (start : FunctionId) (intermediates : List FunctionId) (stop : FunctionId)
    (label : String)
  | update (function : FunctionId) (updates : Dict String)
  | inspect (function : FunctionId)
  | listCallees (function : FunctionId)
  deriving DecidableEq, Repr

namespace Action

def name : Action → String
  | .addFunction _ _ => "add_new_function"
  | .compress _ _ _ _ => "compress_call_chain"
  | .update _ _ => "update_function_node"
  | .inspect _ => "inspect_function"
  | .listCallees _ => "list_callees"

def isMutation : Action → Bool
  | .addFunction _ _ | .compress _ _ _ _ | .update _ _ => true
  | .inspect _ | .listCallees _ => false

def arguments : Action → Json
  | .addFunction function callers =>
    .object [("callers", .strings callers), ("function", .string function)]
  | .compress start intermediates stop label =>
    .object [("end_function", .string stop), ("intermediate_functions", .strings intermediates),
      ("new_edge_label", .string label), ("start_function", .string start)]
  | .update function updates =>
    .object [("function", .string function), ("updates", updates.toJson .string)]
  | .inspect function | .listCallees function => .object [("function", .string function)]

structure Draft where
  function : Option String := none
  callers : Option (List String) := none
  start : Option String := none
  intermediates : Option (List String) := none
  stop : Option String := none
  label : Option String := none
  updates : Option (Dict String) := none

def fill : Decoder.Fill Draft := fun origin name raw draft =>
  match name with
  | "function" => do .ok { draft with function := some (← Decoder.text origin raw) }
  | "callers" => do .ok { draft with callers := some (← Decoder.list Decoder.text origin raw) }
  | "start_function" => do .ok { draft with start := some (← Decoder.text origin raw) }
  | "intermediate_functions" => do
    .ok { draft with intermediates := some (← Decoder.list Decoder.text origin raw) }
  | "end_function" => do .ok { draft with stop := some (← Decoder.text origin raw) }
  | "new_edge_label" => do .ok { draft with label := some (← Decoder.text origin raw) }
  | _ => do .ok { draft with updates := some (← Dict.decoder Decoder.text origin raw) }

def addFunctionOf (d : Draft) : Except DecodeError Action := do
  .ok (.addFunction (← Decoder.require "function" d.function)
    (← Decoder.require "callers" d.callers))

def compressOf (d : Draft) : Except DecodeError Action := do
  .ok (.compress (← Decoder.require "start_function" d.start)
    (← Decoder.require "intermediate_functions" d.intermediates)
    (← Decoder.require "end_function" d.stop) (← Decoder.require "new_edge_label" d.label))

def updateOf (d : Draft) : Except DecodeError Action := do
  .ok (.update (← Decoder.require "function" d.function) (← Decoder.require "updates" d.updates))

def inspectOf (d : Draft) : Except DecodeError Action := do
  .ok (.inspect (← Decoder.require "function" d.function))

def listCalleesOf (d : Draft) : Except DecodeError Action := do
  .ok (.listCallees (← Decoder.require "function" d.function))

def variant (name : String) (fields : List String)
    (finish : Draft → Except DecodeError Action) : Decoder Action :=
  let wanted := "struct variant AuditAction::" ++ name
  Decoder.objectOnly wanted
    (Decoder.fields wanted (fields.map (⟨·, [], false⟩)) {} fill finish)

def argumentsDecoder : String → Option (Decoder Action)
  | "add_new_function" => some (variant "AddNewFunction" ["function", "callers"] addFunctionOf)
  | "compress_call_chain" =>
    some (variant "CompressCallChain"
      ["start_function", "intermediate_functions", "end_function", "new_edge_label"] compressOf)
  | "update_function_node" =>
    some (variant "UpdateFunctionNode" ["function", "updates"] updateOf)
  | "inspect_function" => some (variant "InspectFunction" ["function"] inspectOf)
  | "list_callees" => some (variant "ListCallees" ["function"] listCalleesOf)
  | _ => none

/-- The action a call asks for, or what to tell whoever made the call. -/
def ofCall (call : ToolCall) : Except String Action :=
  match call.arguments with
  | .string raw => .error ("arguments of " ++ call.name ++ " are not valid JSON: " ++ raw)
  | arguments =>
    match argumentsDecoder call.name with
    | none => .error ("unknown action " ++ call.name)
    | some decoder =>
      (decoder.ofJson arguments).mapError fun e =>
        "invalid arguments for " ++ call.name ++ ": " ++ e.message

/-- The description by which a repeated call is recognised. -/
def describe (call : ToolCall) : String :=
  "Invoked " ++ call.name ++ " with arguments " ++ call.arguments.compact

private def text : Json := .object [("type", .string "string")]

private def textAs (description : String) : Json :=
  .object [("description", .string description), ("type", .string "string")]

private def texts : List (String × Json) := [("items", text), ("type", .string "array")]

private def schema (required : List String) (properties : List (String × Json)) : Json :=
  .object [("properties", .ofMembers properties), ("required", .strings required),
    ("type", .string "object")]

def catalogue : List ToolDefinition := [
  ⟨"add_new_function",
    "Add a function to the call graph as a direct callee of the given callers. " ++
    "`function` is the function name or a dotted suffix of it; it is resolved " ++
    "among the real callees of the callers.",
    schema ["function", "callers"] [
      ("function", textAs "Name or dotted suffix of the callee to add"),
      ("callers", .object
        (("description", .string "Fully qualified graph nodes that call the function") :: texts))]⟩,
  ⟨"compress_call_chain",
    "Replace a linear chain start -> intermediates -> end with a single labeled edge " ++
    "start -> end. Every intermediate must have exactly one caller and one callee. " ++
    "The label may use \x7bstart_function\x7d, \x7bintermediate_functions\x7d and " ++
    "\x7bend_function\x7d.",
    schema ["start_function", "intermediate_functions", "end_function", "new_edge_label"] [
      ("start_function", text), ("intermediate_functions", .object texts), ("end_function", text),
      ("new_edge_label", textAs "What the collapsed chain does with the data")]⟩,
  ⟨"update_function_node",
    "Record findings on a graph node. Allowed keys: security_sanitizer, " ++
    "taint_propagation, summary, key_codes.",
    schema ["function", "updates"] [
      ("function", text),
      ("updates", .object [("additionalProperties", text),
        ("description", .string "Finding kind to text"), ("type", .string "object")])]⟩,
  ⟨"inspect_function", "Return the source code of a function.",
    schema ["function"] [("function", textAs "Fully qualified function name")]⟩,
  ⟨"list_callees", "List the functions a function calls, one per line.",
    schema ["function"] [("function", textAs "Fully qualified function name")]⟩]

end Action

end PathAudit
