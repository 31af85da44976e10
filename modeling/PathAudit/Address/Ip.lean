import PathAudit.Number.Decimal
import PathAudit.Text.Basic
import PathAudit.Text.Utf8

/-! Numeric addresses of hosts: four bytes, or eight numbers of sixteen bits. -/
namespace PathAudit.Ip

private def hexValue (digits : List Char) : Nat :=
  digits.foldl (fun n d => n * 16 + (Utf8.hexDigit? d).getD 0) 0

private def isHex (c : Char) : Bool := (Utf8.hexDigit? c).isSome

private def isOctal (c : Char) : Bool := '0' ≤ c && c ≤ '7'

/-- A number in base 16 after `0x`, in base 8 after `0`, and in base 10 otherwise. -/
def number? (s : List Char) : Option Nat :=
  match s with
  | [] => none
  | '0' :: 'x' :: digits | '0' :: 'X' :: digits =>
    if digits.all isHex then some (hexValue digits) else none
  | '0' :: digits =>
    if digits.all isOctal then some (digits.foldl (fun n d => n * 8 + (d.toNat - 48)) 0) else none
  | digits => if digits.all Char.isDigit then some (Decimal.digitsValue digits) else none

private def parts (s : List Char) : List (List Char) :=
  let parts := Text.splitOn '.' s
  if parts.getLast? = some [] then parts.dropLast else parts

/-- Whether the last part of a name is a number, so that the whole has to be an address. -/
def endsInNumber (s : List Char) : Bool :=
  match (parts s).getLast? with
  | none | some [] => false
  | some last => last.all Char.isDigit || (number? last).isSome

/-- Four bytes, written with points. The last number fills what the others leave. -/
def four? (s : List Char) : Option (List Char) := do
  let numbers ← (parts s).mapM number?
  let last ← numbers.getLast?
  let firsts := numbers.dropLast
  if firsts.length > 3 || firsts.any (· > 255) || last ≥ Nat.pow 256 (4 - firsts.length) then none
  else
    let places := [3, 2, 1, 0].drop firsts.length
    let bytes := firsts ++ places.map fun place => last / Nat.pow 256 place % 256
    some (Text.join ['.'] (bytes.map Decimal.ofNat))

private def byte? (s : List Char) : Option Nat :=
  if s.isEmpty || !s.all Char.isDigit || (s.head? = some '0' && s.length > 1) then none
  else
    let n := Decimal.digitsValue s
    if n > 255 then none else some n

private def lastFour? (s : List Char) : Option (List Nat) := do
  match ← (Text.splitOn '.' s).mapM byte? with
  | [a, b, c, d] => some [a * 256 + b, c * 256 + d]
  | _ => none

private structure Numbers where
  read : List Nat := []
  gap : Option Nat := none

private def numbers? : Nat → Numbers → List Char → Option Numbers
  | _, n, [] => some n
  | 0, _, _ => none
  | room + 1, n, ':' :: rest =>
    if n.gap.isSome then none
    else numbers? room { read := n.read ++ [0], gap := some (n.read.length + 1) } rest
  | room + 1, n, s =>
    let digits := (s.take 4).takeWhile isHex
    match s.drop digits.length with
    | [] => some { n with read := n.read ++ [hexValue digits] }
    | '.' :: _ =>
      if digits.isEmpty || room = 0 then none
      else (lastFour? s).map fun four => { n with read := n.read ++ four }
    | ':' :: c :: rest => numbers? room { n with read := n.read ++ [hexValue digits] } (c :: rest)
    | _ => none

/-- Eight numbers; a gap stands for as many zeros as are missing. -/
def eight? (s : List Char) : Option (List Nat) := do
  let n ← match s with
    | ':' :: ':' :: rest => numbers? 7 ⟨[0], some 1⟩ rest
    | ':' :: _ | [] | [_] => none
    | s => numbers? 8 {} s
  match n.gap with
  | some gap => some (n.read.take gap ++ List.replicate (8 - n.read.length) 0 ++ n.read.drop gap)
  | none => if n.read.length = 8 then some n.read else none

private def zeros (numbers : List Nat) : Nat := (numbers.takeWhile (· = 0)).length

private def longestZeros (numbers : List Nat) : Nat × Nat :=
  (List.range numbers.length).foldl (fun (start, length) n =>
    let here := zeros (numbers.drop n)
    if length < here then (n, here) else (start, length)) (0, 0)

private def hexText (n : Nat) : List Char := Nat.toDigits 16 n

/-- The text of eight numbers; the longest run of at least two zeros is left out. -/
def eightText (numbers : List Nat) : List Char :=
  let shown (numbers : List Nat) := Text.join [':'] (numbers.map hexText)
  let (start, length) := longestZeros numbers
  if length < 2 then shown numbers
  else shown (numbers.take start) ++ [':', ':'] ++ shown (numbers.drop (start + length))

end PathAudit.Ip
