import PathAudit.Audit.Loop
import PathAudit.Settings.Load

/-! What is reported when a command fails: what was being done, and the chain of causes. -/
namespace PathAudit.Cli

structure Failure where
  message : String
  causes : List String := []
  deriving Repr, Inhabited

namespace Failure

private def indented (first later cause : String) : String :=
  first ++ joined ("\n" ++ later) ((Text.splitOn '\n' cause.toList).map String.ofList)

private def numbered : Nat → List String → List String
  | _, [] => []
  | n, cause :: rest =>
    let margin := String.ofList (List.replicate (5 - (Decimal.ofNat n).length) ' ')
    indented (margin ++ decimal n ++ ": ") "       " cause :: numbered (n + 1) rest

/-- The report. A single cause stands alone, several are numbered. -/
def report (f : Failure) : String :=
  let causes := match f.causes with
    | [] => []
    | [cause] => [indented "    " "    " cause]
    | causes => numbered 0 causes
  let told := if causes.isEmpty then "" else "\n\nCaused by:\n" ++ joined "\n" causes
  "Error: " ++ f.message ++ told ++ "\n"

def ofSettings (e : SettingsError) : List String :=
  match e with
  | .io fault => [e.message, fault.message]
  | .json error => [e.message, error.message]
  | .invalidValue _ => [e.message]

def ofAudit (e : AuditError) : List String :=
  match e with
  | .gateway error => [e.message, error.message]
  | .store error => [e.message, error.message]
  | .budgetExhausted _ | .internal _ => [e.message]

/-- A chain of causes on its own: the first is what is told. -/
def ofCauses : List String → Failure
  | [] => ⟨"", []⟩
  | message :: causes => ⟨message, causes⟩

end Failure

end PathAudit.Cli
