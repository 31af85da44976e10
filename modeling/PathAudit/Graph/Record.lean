import PathAudit.Graph.Annotations
import PathAudit.Graph.CallGraph

/-! Path records: one candidate attack path as it is kept between runs. -/
namespace PathAudit

structure PathRecord where
  entry : FunctionId
  sink : FunctionId
  callGraph : List CallEdge
  annotations : Annotations := .empty
  doubleCheck : Option String := none
  conclusion : Option Bool := none
  auditResult : Option String := none

namespace PathRecord

def keyOf (entry sink : FunctionId) : String := entry ++ "---" ++ sink

def key (r : PathRecord) : String := keyOf r.entry r.sink

def graph (r : PathRecord) : CallGraph := .ofEdges r.callGraph

def isConcluded (r : PathRecord) : Bool := r.conclusion.isSome

private def given (name : String) (encode : α → Json) : Option α → List (String × Json)
  | some a => [(name, encode a)]
  | none => []

private def verdictJson (isVulnerable : Bool) : Json :=
  .object [("is_vulnerable", .bool isVulnerable)]

/-- Members in the order records are exported; the last three only when set. -/
def toJson (r : PathRecord) : Json :=
  .object
    ([("entry_name", .string r.entry), ("sink_name", .string r.sink),
      ("call_graph", .array (r.callGraph.map CallEdge.toJson)),
      ("function_analysis_records", r.annotations.toJson)] ++
      given "double_check" .string r.doubleCheck ++
      given "conclusion" verdictJson r.conclusion ++
      given "audit_result" .string r.auditResult)

private structure Draft where
  entry : Option String := none
  sink : Option String := none
  callGraph : Option (List CallEdge) := none
  annotations : Annotations := .empty
  doubleCheck : Option String := none
  conclusion : Option Bool := none
  auditResult : Option String := none

private def conclusionDecoder : Decoder Bool :=
  Decoder.fields "struct Conclusion" [⟨"is_vulnerable", [], false⟩] none
    (fun origin _ raw _ => (Decoder.bool origin raw).map some)
    (Decoder.require "is_vulnerable")

private def fill : Decoder.Fill Draft := fun origin name raw draft =>
  match name with
  | "entry_name" => do .ok { draft with entry := some (← Decoder.text origin raw) }
  | "sink_name" => do .ok { draft with sink := some (← Decoder.text origin raw) }
  | "call_graph" => do
    .ok { draft with callGraph := some (← Decoder.list CallEdge.decoder origin raw) }
  | "function_analysis_records" => do
    .ok { draft with annotations := ← Annotations.decoder origin raw }
  | "double_check" => do
    .ok { draft with doubleCheck := ← Decoder.option Decoder.text origin raw }
  | "conclusion" => do
    .ok { draft with conclusion := ← Decoder.option conclusionDecoder origin raw }
  | _ => do .ok { draft with auditResult := ← Decoder.option Decoder.text origin raw }

private def finish (draft : Draft) : Except DecodeError PathRecord := do
  let entry ← Decoder.require "entry_name" draft.entry
  let sink ← Decoder.require "sink_name" draft.sink
  let callGraph ← Decoder.require "call_graph" draft.callGraph
  .ok ⟨entry, sink, callGraph, draft.annotations, draft.doubleCheck, draft.conclusion,
    draft.auditResult⟩

def decoder : Decoder PathRecord :=
  Decoder.fields "struct PathRecord"
    [⟨"entry_name", ["entry"], false⟩, ⟨"sink_name", ["sink"], false⟩, ⟨"call_graph", [], false⟩,
      ⟨"function_analysis_records", [], true⟩, ⟨"double_check", [], true⟩, ⟨"conclusion", [], true⟩,
      ⟨"audit_result", [], true⟩]
    {} fill finish

/-- However a record was written, its findings are read in the order of their functions. -/
theorem increasing_of_decoder {origin : Origin} {raw : Raw} {r : PathRecord}
    (decoded : decoder origin raw = .ok r) : Increasing r.annotations.entries := by
  have keeps : ∀ name raw (draft next : Draft), fill origin name raw draft = .ok next →
      Increasing draft.annotations.entries → Increasing next.annotations.entries := by
    intro name raw draft next filled sorted
    unfold fill at filled
    split at filled
    all_goals obtain ⟨value, read, ⟨⟩⟩ := bind_eq_ok filled
    case h_4 => exact Dict.increasing_of_decoder read
    all_goals exact sorted
  have start : Increasing ({} : Draft).annotations.entries := .nil
  obtain ⟨draft, sorted, finished⟩ := Decoder.exists_of_fields keeps start decoded
  obtain ⟨entry, -, finished⟩ := bind_eq_ok finished
  obtain ⟨sink, -, finished⟩ := bind_eq_ok finished
  obtain ⟨callGraph, -, ⟨⟩⟩ := bind_eq_ok finished
  exact sorted

theorem decoder_toJson {r : PathRecord} (sorted : Increasing r.annotations.entries)
    (origin : Origin) : decoder origin (.ofJson r.toJson) = .ok r := by
  obtain ⟨entry, sink, callGraph, annotations, doubleCheck, conclusion, auditResult⟩ := r
  have edges : Decoder.list CallEdge.decoder origin
      (.ofJson (.array (callGraph.map CallEdge.toJson))) = .ok callGraph :=
    Decoder.list_ofJson fun e _ => e.decoder_toJson origin
  have findings : Annotations.decoder origin (.ofJson annotations.toJson) = .ok annotations :=
    Annotations.decoder_toJson sorted origin
  have object (members : List (String × Json)) :
      Raw.ofJson (.object members) = .object (Raw.ofMembers members) .closed := rfl
  have text (s : String) : Decoder.text origin (.ofJson (.string s)) = .ok s := rfl
  have optional (s : String) :
      Decoder.option Decoder.text origin (.ofJson (.string s)) = .ok (some s) := rfl
  have verdict (b : Bool) :
      Decoder.option conclusionDecoder origin (.ofJson (verdictJson b)) = .ok (some b) := rfl
  cases doubleCheck <;> cases conclusion <;> cases auditResult <;>
    simp [decoder, toJson, Decoder.fields, object, given, Raw.ofMembers, Decoder.fillMembers,
      Decoder.Field.named, mapError_ok, fill, finish, Decoder.require, text, optional, verdict,
      edges, findings, bind, Except.bind]

end PathRecord

end PathAudit
