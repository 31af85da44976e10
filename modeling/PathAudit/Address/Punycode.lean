/-! Texts of any characters, written with letters, digits and hyphens. The plain characters come
first; the others follow as distances in increasing order of their codes, each distance a number of
digits whose weights adapt to the distances before it. -/
namespace PathAudit.Punycode

/-- Letters stand for the digits from 0 on, and the ten digits for those from 26 on. -/
def digitChar (d : Nat) : Char := if d < 26 then Char.ofNat (97 + d) else Char.ofNat (22 + d)

def digitValue? (c : Char) : Option Nat :=
  if 'a' ≤ c ∧ c ≤ 'z' then some (c.toNat - 97)
  else if 'A' ≤ c ∧ c ≤ 'Z' then some (c.toNat - 65)
  else if '0' ≤ c ∧ c ≤ '9' then some (c.toNat - 22)
  else none

def isPlain (c : Char) : Bool := c.toNat < 0x80

/-- Below this value a digit is the last one of its number. -/
def threshold (place bias : Nat) : Nat := min 26 (max 1 (place - bias))

theorem threshold_pos (place bias : Nat) : 1 ≤ threshold place bias := by
  unfold threshold
  omega

def firstPlace : Nat := 36

private def scaled (delta place : Nat) : Nat :=
  if 455 < delta then scaled (delta / 35) (place + 36) else place + 36 * delta / (delta + 38)
termination_by delta
decreasing_by omega

def adapted (delta count : Nat) (isFirst : Bool) : Nat :=
  let delta := if isFirst then delta / 700 else delta / 2
  scaled (delta + delta / count) 0

def startBias : Nat := 72

def digits (bias place delta : Nat) : List Char :=
  let t := threshold place bias
  if delta < t then [digitChar delta]
  else
    digitChar (t + (delta - t) % (36 - t)) ::
      digits bias (place + 36) ((delta - t) / (36 - t))
termination_by delta
decreasing_by
  have low := threshold_pos place bias
  have less := Nat.div_le_self (delta - threshold place bias) (36 - threshold place bias)
  omega

private structure Encoding where
  written : List Char := []
  delta : Nat := 0
  bias : Nat := startBias
  count : Nat

private def passChar (plainCount code : Nat) (e : Encoding) (c : Char) : Encoding :=
  if c.toNat < code then { e with delta := e.delta + 1 }
  else if c.toNat = code then
    { written := e.written ++ digits e.bias firstPlace e.delta
      delta := 0
      bias := adapted e.delta (e.count + 1) (e.count == plainCount)
      count := e.count + 1 }
  else e

private def encodeCodes (s : List Char) (plainCount : Nat) : List Nat → Nat → Encoding → Encoding
  | [], _, e => e
  | code :: rest, least, e =>
    let e := { e with delta := e.delta + (code - least) * (e.count + 1) }
    let e := s.foldl (passChar plainCount code) e
    encodeCodes s plainCount rest (code + 1) { e with delta := e.delta + 1 }

private def strangeCodes (s : List Char) : List Nat :=
  let codes := (s.filter (!isPlain ·)).map Char.toNat
  (codes.mergeSort (· ≤ ·)).eraseDups

def encode (s : List Char) : List Char :=
  let plain := s.filter isPlain
  let e := encodeCodes s plain.length (strangeCodes s) 0x80 { count := plain.length }
  plain ++ (if plain.isEmpty then [] else ['-']) ++ e.written

private def distance? (bias : Nat) : Nat → Nat → Nat → List Char → Option (Nat × List Char)
  | _, _, _, [] => none
  | place, weight, sum, c :: rest => do
    let digit ← digitValue? c
    let sum := sum + digit * weight
    let t := threshold place bias
    if digit < t then some (sum, rest) else distance? bias (place + 36) (weight * (36 - t)) sum rest

private def decodeFrom : Nat → List Char → Nat → Nat → Nat → List Char → Option (List Char)
  | 0, _, _, _, _, _ => none
  | _, done, _, _, _, [] => some done
  | steps + 1, done, code, index, bias, s => do
    let (delta, rest) ← distance? bias firstPlace 1 0 s
    let count := done.length + 1
    let next := code + (index + delta) / count
    let place := (index + delta) % count
    if next.isValidChar then
      let done := done.take place ++ Char.ofNat next :: done.drop place
      decodeFrom steps done next (place + 1) (adapted delta count (index == 0)) rest
    else none

private def parts (s : List Char) : List Char × List Char :=
  match s.reverse.dropWhile (· != '-') with
  | _ :: plain => if plain.isEmpty then ([], s) else (plain.reverse, s.drop (plain.length + 1))
  | [] => ([], s)

/-- The text that is written so; `none` where none is. -/
def decode? (s : List Char) : Option (List Char) :=
  let (plain, rest) := parts s
  if plain.all isPlain then decodeFrom (rest.length + 1) plain 0x80 0 startBias rest else none

end PathAudit.Punycode
