import PathAudit.Text.Decomposition
import PathAudit.Text.Mark

/-! The composed form of a text: characters are taken apart, marks on the same character are put in
order of their classes, and what can be put together is. Two texts that are equal as written have
the same composed form. -/
namespace PathAudit.Text

namespace Hangul

/-! Syllables are put together from letters by rule: a lead, a vowel, and perhaps a tail. -/

def syllables : Nat := 0xAC00
def leads : Nat := 0x1100
def vowels : Nat := 0x1161
def tails : Nat := 0x11A7
def leadCount : Nat := 19
def vowelCount : Nat := 21
def tailCount : Nat := 28

private def index? (first count code : Nat) : Option Nat :=
  if first ≤ code ∧ code < first + count then some (code - first) else none

def decompose? (code : Nat) : Option (List Nat) :=
  (index? syllables (leadCount * vowelCount * tailCount) code).map fun n =>
    let tail := n % tailCount
    [leads + n / (vowelCount * tailCount), vowels + n / tailCount % vowelCount] ++
      if tail = 0 then [] else [tails + tail]

def compose? (first second : Nat) : Option Nat :=
  match index? leads leadCount first, index? vowels vowelCount second with
  | some lead, some vowel => some (syllables + (lead * vowelCount + vowel) * tailCount)
  | _, _ =>
    match index? syllables (leadCount * vowelCount * tailCount) first,
        index? (tails + 1) (tailCount - 1) second with
    | some n, some tail => if n % tailCount = 0 then some (first + tail + 1) else none
    | _, _ => none

end Hangul

/-- How often a character can be taken apart into one that can be again. -/
private def nesting : Nat := 4

private def decomposeCode : Nat → Nat → List Nat
  | 0, code => [code]
  | depth + 1, code =>
    match Hangul.decompose? code with
    | some codes => codes
    | none =>
      match Table.find? unfolded code, Table.find? wholes code with
      | some row, _ => row.values
      | none, some row => row.values.flatMap (decomposeCode depth)
      | none, none => [code]

def decompose (s : List Char) : List Char :=
  s.flatMap fun c =>
    if c.toNat < 0x80 then [c] else (decomposeCode nesting c.toNat).map Char.ofNat

/-- Puts a mark behind those of the same or a lower class at the end of a reversed text. -/
private def insertMark (c : Char) (rank : Nat) : List Char → List Char
  | [] => [c]
  | last :: rest =>
    if rank < combiningClass last then last :: insertMark c rank rest else c :: last :: rest

def ordered (s : List Char) : List Char :=
  (s.foldl (fun done c =>
    let rank := combiningClass c
    if rank = 0 then c :: done else insertMark c rank done) []).reverse

private def composeCode? (first second : Nat) : Option Nat :=
  Hangul.compose? first second <|>
    (wholes.find? fun row => row.values == [first, second]).map (·.first)

/-- A text that is being put together: what is settled, last character first, the character that
may still grow, and the marks on it that did not join it, last one first. -/
private structure Composing where
  settled : List Char := []
  base : Option Char := none
  marks : List Char := []

namespace Composing

private def all (s : Composing) : List Char := s.marks ++ s.base.toList ++ s.settled

private def isBlocked (s : Composing) (rank : Nat) : Bool :=
  match s.marks with
  | [] => false
  | last :: _ => rank ≤ combiningClass last

private def add (s : Composing) (c : Char) : Composing :=
  let rank := combiningClass c
  let whole? : Option Nat := do
    let base ← s.base
    if s.isBlocked rank then none else composeCode? base.toNat c.toNat
  match whole? with
  | some whole => { s with base := some (Char.ofNat whole) }
  | none =>
    if rank = 0 then { settled := s.all, base := some c }
    else if s.base.isNone then { s with settled := c :: s.settled }
    else { s with marks := c :: s.marks }

end Composing

def composed (s : List Char) : List Char :=
  if s.all fun c => c.toNat < 0x80 then s
  else ((ordered (decompose s)).foldl Composing.add {}).all.reverse

end PathAudit.Text
