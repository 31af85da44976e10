import PathAudit.Dict
import PathAudit.Graph.Finding

/-! Findings by function. An entry stays when its function leaves the graph. -/
namespace PathAudit

abbrev Annotations := Dict Findings

namespace Annotations

def finding (a : Annotations) (f : FunctionId) (kind : FindingKind) : Option String :=
  (a.get? f).bind (·.get? kind)

def hasAny (a : Annotations) (f : FunctionId) : Bool :=
  match a.get? f with
  | some findings => !findings.isEmpty
  | none => false

def set (a : Annotations) (f : FunctionId) (kind : FindingKind) (text : String) : Annotations :=
  a.insert f (((a.get? f).getD .empty).insert kind text)

theorem hasAny_set (a : Annotations) (f : FunctionId) (kind : FindingKind) (text : String) :
    (a.set f kind text).hasAny f = true := by
  simp only [hasAny, set, Dict.get?_insert, if_true, Bool.not_eq_true']
  cases held : (((a.get? f).getD .empty).insert kind text).isEmpty with
  | false => rfl
  | true =>
    have gone := Findings.isEmpty_iff.mp held kind
    simp at gone

/-- Writes the given kinds and leaves the other kinds of the function as they are; no kinds at all
leave no trace. -/
def merge (a : Annotations) (f : FunctionId) (updates : Findings) : Annotations :=
  if updates.isEmpty then a else a.insert f (((a.get? f).getD .empty).merge updates)

theorem get?_merge_of_ne (a : Annotations) (f other : FunctionId) (updates : Findings)
    (apart : other ≠ f) : (a.merge f updates).get? other = a.get? other := by
  unfold merge
  split
  · rfl
  · rw [Dict.get?_insert, if_neg apart]

theorem get?_merge_self (a : Annotations) (f : FunctionId) {updates : Findings}
    (given : updates.isEmpty = false) :
    (a.merge f updates).get? f = some (((a.get? f).getD .empty).merge updates) := by
  simp [merge, given]

theorem get?_merge_of_held {a : Annotations} {f : FunctionId} {updates : Findings}
    (held : ∀ kind text, updates.get? kind = some text → a.finding f kind = some text)
    (other : FunctionId) : (a.merge f updates).get? other = a.get? other := by
  by_cases apart : other = f
  · subst apart
    cases findings : a.get? other with
    | none =>
      -- Of a function without findings nothing can be held, so there is nothing to write.
      have none : updates.isEmpty = true := by
        rw [Findings.isEmpty_iff]
        intro kind
        cases written : updates.get? kind with
        | none => rfl
        | some text => simpa [finding, findings] using held kind text written
      simp [merge, none, findings]
    | some found =>
      cases given : updates.isEmpty with
      | true => simp [merge, given, findings]
      | false =>
        rw [get?_merge_self a other given, findings, Option.getD_some, Option.some.injEq]
        ext1 kind
        cases written : updates.get? kind with
        | none => simp [written]
        | some text =>
          have said : found.get? kind = some text := by
            simpa [finding, findings] using held kind text written
          simp [written, said]
  · exact get?_merge_of_ne a f other updates apart

theorem finding_merge (a : Annotations) (f : FunctionId) (updates : Findings)
    (kind : FindingKind) :
    (a.merge f updates).finding f kind = (updates.get? kind <|> a.finding f kind) := by
  unfold finding
  cases given : updates.isEmpty with
  | true => simp [merge, given, Findings.isEmpty_iff.mp given kind]
  | false =>
    rw [get?_merge_self a f given]
    cases a.get? f <;> simp [Findings.empty]

def toJson (a : Annotations) : Json := Dict.toJson Findings.toJson a

def decoder : Decoder Annotations := Dict.decoder Findings.decoder

theorem decoder_toJson {a : Annotations} (sorted : Increasing a.entries) (origin : Origin) :
    decoder origin (.ofJson a.toJson) = .ok a :=
  Dict.decoder_toJson sorted fun entry _ => entry.2.decoder_toJson origin

end Annotations

end PathAudit
