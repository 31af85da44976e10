import PathAudit.Text.Basic
import PathAudit.Text.Utf8

/-! Tables of character codes, written as text. Rows stand between blanks; all numbers are
hexadecimal. A row is a code or a run of codes such as `41-5A`, in which every second code counts if
`/2` follows, and may go on with what belongs to the run, such as `>61,62`. -/
namespace PathAudit.Table

structure Row where
  first : Nat
  last : Nat
  step : Nat := 1
  values : List Nat := []
  deriving DecidableEq, Repr, Inhabited

private def number (digits : List Char) : Nat :=
  digits.foldl (fun n d => n * 16 + (Utf8.hexDigit? d).getD 0) 0

private def splitAt (c : Char) (s : List Char) : List Char × Option (List Char) :=
  match s.dropWhile (· != c) with
  | _ :: rest => (s.takeWhile (· != c), some rest)
  | [] => (s, none)

def Row.ofText (s : List Char) : Row :=
  let (run, values) := splitAt '>' s
  let (run, step) := splitAt '/' run
  let (first, last) := splitAt '-' run
  { first := number first
    last := number (last.getD first)
    step := (step.map number).getD 1
    values := (values.map fun v => (Text.splitOn ',' v).map number).getD [] }

def rows (text : String) : List Row :=
  let blank (c : Char) : Char := if c == '\n' then ' ' else c
  ((Text.splitOn ' ' (text.toList.map blank)).filter (!·.isEmpty)).map Row.ofText

def Row.has (r : Row) (code : Nat) : Bool :=
  r.first ≤ code && code ≤ r.last && (code - r.first) % r.step == 0

def find? (table : List Row) (code : Nat) : Option Row := table.find? (·.has code)

def has (table : List Row) (code : Nat) : Bool := (find? table code).isSome

/-- What belongs to a code; the codes of a run keep their distance. -/
def values? (table : List Row) (code : Nat) : Option (List Nat) :=
  (find? table code).map fun r => r.values.map (· + code - r.first)

end PathAudit.Table
