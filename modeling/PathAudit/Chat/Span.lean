import PathAudit.Text.Basic
import PathAudit.Number.Decimal

/-! Spans of time. A span is a number of nanoseconds everywhere; its text uses the largest unit
that does not make it less than one. -/
namespace PathAudit.Span

def micros (n : Nat) : Nat := n * 1000

def millis (n : Nat) : Nat := n * 1000000

def seconds (n : Nat) : Nat := n * 1000000000

/-- The longest wait that the timer of the runtime takes, thirty years of 365 days; one that is
meant to be longer ends then. -/
def longest : Nat := seconds (30 * 365 * 86400)

def toMicros (s : Nat) : Nat := s / 1000

def toMillis (s : Nat) : Nat := s / 1000000

def toSeconds (s : Nat) : Nat := s / 1000000000

/-- A number of units with `places` decimals, the zeros at the end left out. -/
private def inUnits (s : Nat) (places : Nat) (unit : String) : String :=
  let whole := s / Nat.pow 10 places
  let digits := Decimal.ofNat (s % Nat.pow 10 places)
  let fraction := List.replicate (places - digits.length) '0' ++ digits
  let kept := (fraction.reverse.dropWhile (· == '0')).reverse
  let point := if kept.isEmpty then "" else "." ++ String.ofList kept
  decimal whole ++ point ++ unit

def text (s : Nat) : String :=
  if Nat.pow 10 9 ≤ s then inUnits s 9 "s"
  else if Nat.pow 10 6 ≤ s then inUnits s 6 "ms"
  else if Nat.pow 10 3 ≤ s then inUnits s 3 "µs"
  else decimal s ++ "ns"

end PathAudit.Span
