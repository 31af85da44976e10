import PathAudit.Json.Value

/-! Laying one JSON value over another. Where both sides are objects the members are merged one by
one, and a `null` above leaves what is below; everywhere else the upper value replaces the lower. -/
namespace PathAudit.Json

mutual

/-- The value `upper` laid over `lower`. -/
def merge (lower : Json) : Json → Json
  | .object upper =>
    match lower with
    | .object members => .object (mergeMembers members upper)
    | _ => .object upper
  | upper => upper

def mergeMembers (members : List (String × Json)) : List (String × Json) → List (String × Json)
  | [] => members
  | (key, value) :: rest =>
    mergeMembers
      (if value.isNull then members
        else
          let merged :=
            match members.lookup key with
            | some old => merge old value
            | none => value
          putMember key merged members)
      rest

end

end PathAudit.Json
