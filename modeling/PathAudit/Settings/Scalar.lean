import PathAudit.Text.Basic
import PathAudit.Number.Decimal

/-! Single values as they are written in the environment. Names are read without regard to the
case of their letters; numbers are not. -/
namespace PathAudit.Scalar

def flag? (s : String) : Option Bool :=
  let name := lowered s
  if ["true", "1", "yes", "on"].contains name then some true
  else if ["false", "0", "no", "off"].contains name then some false
  else none

/-- A number from `least` to `greatest`, in decimal digits with an optional plus sign and any
blanks around it. -/
def number? (s : String) (least greatest : Nat) : Option Nat :=
  let written := Text.trim s.toList
  let digits := if written.head? = some '+' then written.tail else written
  if digits.isEmpty || !digits.all Char.isDigit then none
  else
    let n := Decimal.digitsValue digits
    if n < Nat.pow 2 64 ∧ least ≤ n ∧ n ≤ greatest then some n else none

def levelNames : List String := ["trace", "debug", "info", "warn", "error"]

def level? (s : String) : Option String :=
  let name := lowered s
  if levelNames.contains name then some name else none

end PathAudit.Scalar
