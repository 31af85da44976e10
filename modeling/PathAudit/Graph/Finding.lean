import PathAudit.Json.Decode
import PathAudit.Graph.Function

/-! Findings: what is known about a function on the path, at most one text of each kind. -/
namespace PathAudit

inductive FindingKind where
  | vulnerableSink
  | attackSource
  | taintPropagation
  | securitySanitizer
  | summary
  | keyCodes
  deriving DecidableEq, Repr, Inhabited

namespace FindingKind

def all : List FindingKind :=
  [.vulnerableSink, .attackSource, .taintPropagation, .securitySanitizer, .summary, .keyCodes]

def name : FindingKind → String
  | .vulnerableSink => "vulnerable_sink"
  | .attackSource => "attack_source"
  | .taintPropagation => "taint_propagation"
  | .securitySanitizer => "security_sanitizer"
  | .summary => "summary"
  | .keyCodes => "key_codes"

def ofName? (text : String) : Option FindingKind := all.find? (·.name == text)

/-- The kinds that an audit may write; the others are set when a record is imported. -/
def amendable : List FindingKind := [.securitySanitizer, .taintPropagation, .summary, .keyCodes]

def isAmendable (kind : FindingKind) : Bool := amendable.contains kind

theorem mem_all (kind : FindingKind) : kind ∈ all := by cases kind <;> decide

theorem name_of_ofName? {text : String} {kind : FindingKind} (known : ofName? text = some kind) :
    kind.name = text := by
  simpa using List.find?_some known

theorem ofName?_name (kind : FindingKind) : ofName? kind.name = some kind := by
  cases kind <;> decide

def decodeName (text : String) : Except DecodeError FindingKind :=
  Decoder.variant (all.map name) ofName? text

end FindingKind

structure Findings where
  get? : FindingKind → Option String

namespace Findings

def empty : Findings := ⟨fun _ => none⟩

instance : Inhabited Findings := ⟨empty⟩

@[ext]
theorem ext {a b : Findings} (same : ∀ kind, a.get? kind = b.get? kind) : a = b := by
  cases a; cases b; simp only [mk.injEq]; exact funext same

instance : DecidableEq Findings := fun a b =>
  if same : ∀ kind ∈ FindingKind.all, a.get? kind = b.get? kind then
    .isTrue (ext fun kind => same kind (FindingKind.mem_all kind))
  else .isFalse fun equal => same fun _ _ => equal ▸ rfl

def insert (kind : FindingKind) (text : String) (f : Findings) : Findings :=
  ⟨fun k => if k = kind then some text else f.get? k⟩

def merge (f updates : Findings) : Findings := ⟨fun k => updates.get? k <|> f.get? k⟩

def contains (f : Findings) (kind : FindingKind) : Bool := (f.get? kind).isSome

def toList (f : Findings) : List (FindingKind × String) :=
  FindingKind.all.filterMap fun kind => (f.get? kind).map (kind, ·)

def ofList (entries : List (FindingKind × String)) : Findings :=
  entries.foldl (fun f (kind, text) => f.insert kind text) empty

def kinds (f : Findings) : List FindingKind := FindingKind.all.filter f.contains

def isEmpty (f : Findings) : Bool := f.kinds.isEmpty

@[simp]
theorem get?_insert (kind k : FindingKind) (text : String) (f : Findings) :
    (f.insert kind text).get? k = if k = kind then some text else f.get? k := rfl

@[simp]
theorem get?_merge (f updates : Findings) (k : FindingKind) :
    (f.merge updates).get? k = (updates.get? k <|> f.get? k) := rfl

theorem isEmpty_iff {f : Findings} : f.isEmpty = true ↔ ∀ kind, f.get? kind = none := by
  simp [isEmpty, kinds, contains, List.filter_eq_nil_iff, FindingKind.mem_all]

theorem mem_of_get?_ofList {entries : List (FindingKind × String)} {kind : FindingKind}
    {text : String} : (ofList entries).get? kind = some text → (kind, text) ∈ entries := by
  have onward (f : Findings)
      (held : (entries.foldl (fun f (kind, text) => f.insert kind text) f).get? kind = some text) :
      (kind, text) ∈ entries ∨ f.get? kind = some text := by
    induction entries generalizing f with
    | nil => exact .inr held
    | cons entry entries ih =>
      rcases ih _ held with later | now
      · exact .inl (List.mem_cons_of_mem _ later)
      · rw [get?_insert] at now
        split at now
        next same =>
          subst same
          cases Option.some.inj now
          exact .inl List.mem_cons_self
        next => exact .inr now
  intro held
  exact (onward empty held).resolve_right nofun

/-- Nothing of a kind that only an import sets. -/
def Admitted (f : Findings) : Prop := ∀ kind, kind.isAmendable = false → f.get? kind = none

theorem admitted_ofList {entries : List (FindingKind × String)}
    (amendable : ∀ entry ∈ entries, entry.1.isAmendable = true) : (ofList entries).Admitted := by
  intro kind seeded
  cases held : (ofList entries).get? kind with
  | none => rfl
  | some text =>
    have writable := amendable _ (mem_of_get?_ofList held)
    simp [seeded] at writable

def toJson (f : Findings) : Json :=
  .object (f.toList.map fun (kind, text) => (kind.name, .string text))

/-- A kind that is `null` carries no finding. -/
def decoder : Decoder Findings := fun origin raw => do
  let entries ← Decoder.map FindingKind.decodeName (Decoder.option Decoder.text) origin raw
  let last (kind : FindingKind) : Option String :=
    ((entries.reverse.find? (·.1 == kind)).map (·.2)).join
  .ok ⟨last⟩

private theorem find?_toList (f : Findings) (kind : FindingKind) :
    (f.toList.map fun (k, text) => (k, some text)).reverse.find? (·.1 == kind) =
      (f.get? kind).map fun text => (kind, some text) := by
  have among (kinds : List FindingKind) :
      ((kinds.filterMap fun k => (f.get? k).map (k, ·)).map
        fun (k, text) => (k, some text)).reverse.find? (·.1 == kind) =
      if kind ∈ kinds then (f.get? kind).map fun text => (kind, some text) else none := by
    induction kinds with
    | nil => rfl
    | cons k kinds ih =>
      cases held : f.get? k with
      | none =>
        rw [List.filterMap_cons, held, Option.map_none, ih]
        by_cases same : kind = k
        · subst same
          simp [held]
        · simp [same]
      | some text =>
        rw [List.filterMap_cons, held, Option.map_some, List.map_cons, List.reverse_cons,
          List.find?_append, ih]
        by_cases same : kind = k
        · subst same
          by_cases member : kind ∈ kinds <;> simp [held, member]
        · simp [same, Ne.symm same]
  have every := among FindingKind.all
  rwa [if_pos (FindingKind.mem_all kind)] at every

theorem decoder_toJson (f : Findings) (origin : Origin) :
    decoder origin (.ofJson f.toJson) = .ok f := by
  have found : Decoder.map FindingKind.decodeName (Decoder.option Decoder.text) origin
      (.ofJson f.toJson) = .ok (f.toList.map fun (kind, text) => (kind, some text)) := by
    refine Decoder.map_ofJson (fun entry : FindingKind × String => (entry.1, some entry.2)) ?_ ?_
    · intro entry _
      simp [FindingKind.decodeName, Decoder.variant, FindingKind.ofName?_name]
    · intro entry _
      rfl
  simp only [decoder, found, bind, Except.bind, find?_toList, Except.ok.injEq]
  ext1 kind
  cases held : f.get? kind <;> simp [held]

end Findings

end PathAudit
