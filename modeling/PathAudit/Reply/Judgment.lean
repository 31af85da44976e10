import PathAudit.Json.Decode
import PathAudit.Reply.Reading

/-! The reasoner's final judgment on a path, and the remark drawn under the graph for it. -/
namespace PathAudit

structure Judgment where
  taint : String := ""
  sanitization : String := ""
  unsecureCall : String := ""
  toBeConfirmed : String := ""
  isVulnerable : Option Bool := none
  deriving DecidableEq, Repr, Inhabited

namespace Judgment

private def fill : Decoder.Fill Judgment := fun origin name raw j => do
  let v ← Decoder.free origin raw
  match name with
  | "external_input_taint_analysis" => .ok { j with taint := v.plainText }
  | "security_sanitization_analysis" => .ok { j with sanitization := v.plainText }
  | "unsecure_call_analysis" => .ok { j with unsecureCall := v.plainText }
  | "to_be_confirmed" => .ok { j with toBeConfirmed := v.plainText }
  | _ => .ok { j with isVulnerable := v.flag? }

/-- Every field may be left out; a common misspelling of the second is read as well. -/
def decoder : Decoder Judgment :=
  Decoder.fields "struct JudgmentReport"
    [⟨"external_input_taint_analysis", [], true⟩,
      ⟨"security_sanitization_analysis", ["security_anitization_analysis"], true⟩,
      ⟨"unsecure_call_analysis", [], true⟩, ⟨"to_be_confirmed", [], true⟩,
      ⟨"is_vulnerable", [], true⟩]
    {} fill .ok

def ofReply (text : String) : Except ReplyError Judgment := do
  let members ← Reply.members text
  let j ← (decoder.ofJson (.object members)).mapError fun e => .invalid e.message
  if j = {} then .error .missingFields else .ok j

def toJson (j : Judgment) : Json :=
  .ofMembers [("external_input_taint_analysis", .string j.taint),
    ("security_sanitization_analysis", .string j.sanitization),
    ("unsecure_call_analysis", .string j.unsecureCall),
    ("to_be_confirmed", .string j.toBeConfirmed), ("is_vulnerable", .orNull .bool j.isVulnerable)]

def conclusion (j : Judgment) : String :=
  match j.isVulnerable with
  | some true => "IS_VULNERABLE: true"
  | some false => "IS_VULNERABLE: false"
  | none => "IS_VULNERABLE: undetermined"

def sections (j : Judgment) : List (String × String) :=
  [("Taint analysis", j.taint), ("Sanitization", j.sanitization),
    ("Exploit conditions", j.unsecureCall), ("To be confirmed", j.toBeConfirmed),
    ("Preliminary conclusion", j.conclusion)]

def remark (j : Judgment) : String :=
  joined "\n" ((j.sections.filter fun (_, body) => !isBlankText body).map fun (title, body) =>
    "# " ++ title ++ "\n" ++ trimmed body)

end Judgment

/-- The remark for a reply: its sections if it holds a judgment, else its text. -/
def Reply.remark (text : String) : String :=
  match Judgment.ofReply text with
  | .ok j => j.remark
  | .error _ => trimmed text

end PathAudit
