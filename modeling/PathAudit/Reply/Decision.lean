import PathAudit.Reply.Reading

/-! The verifier's decision. Anything short of an explicit, well-formed acceptance rejects. -/
namespace PathAudit

inductive Decision where
  | accepted (isVulnerable : Bool) (feedback : String)
  | rejected (feedback : String)
  deriving DecidableEq, Repr, Inhabited

namespace Decision

def unreadable : Decision := .rejected "could not parse verification"

def feedback : Decision → String
  | .accepted _ feedback => feedback
  | .rejected feedback => feedback

def ofMembers (members : List (String × Json)) : Decision :=
  let feedback := ((members.lookup "feedback").map Json.plainText).getD ""
  match (members.lookup "is_accurate_and_complete").bind Json.flag? with
  | none => unreadable
  | some false =>
    if isBlankText feedback then .rejected "the conclusion is not accurate and complete"
    else .rejected feedback
  | some true =>
    match (members.lookup "is_vulnerable").bind Json.flag? with
    | some isVulnerable => .accepted isVulnerable feedback
    | none => unreadable

def ofReply (text : String) : Decision :=
  match Reply.members text with
  | .ok members => ofMembers members
  | .error _ => unreadable

end Decision

end PathAudit
