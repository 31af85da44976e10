import PathAudit.Json.Value
import PathAudit.Text.Basic

/-! The cells of a table: their kinds, the order between cells of different kinds, and the kinds a
column leans to when a value is stored. -/
namespace PathAudit

inductive Cell where
  | null
  | int (value : Int)
  | real (value : Double)
  | text (value : String)
  | blob (bytes : List UInt8)
  deriving DecidableEq, Repr, Inhabited

namespace Cell

def kindName : Cell → String
  | .null => "Null"
  | .int _ => "Integer"
  | .real _ => "Real"
  | .text _ => "Text"
  | .blob _ => "Blob"

/-- Nothing comes first, then numbers, then texts, then bytes. -/
def rank : Cell → Nat
  | .null => 0
  | .int _ | .real _ => 1
  | .text _ => 2
  | .blob _ => 3

private def ratio (x : Double) : Int × Nat :=
  (if x.negative then -(x.num : Int) else x.num, x.den)

private def numberBefore (a b : Int × Nat) : Bool := a.1 * b.2 < b.1 * a.2

private def bytesBefore : List UInt8 → List UInt8 → Bool
  | _, [] => false
  | [], _ :: _ => true
  | a :: as, b :: bs => if a = b then bytesBefore as bs else a < b

def before : Cell → Cell → Bool
  | .int a, .int b => a < b
  | .int a, .real b => numberBefore (a, 1) (ratio b)
  | .real a, .int b => numberBefore (ratio a) (b, 1)
  | .real a, .real b => numberBefore (ratio a) (ratio b)
  | .text a, .text b => a < b
  | .blob a, .blob b => bytesBefore a b
  | a, b => a.rank < b.rank

/-- Neither before the other; a missing value equals nothing. -/
def equals (a b : Cell) : Bool :=
  a != .null && b != .null && !a.before b && !b.before a

def greatest? (cells : List Cell) : Option Cell :=
  cells.foldl
    (fun best c =>
      match best with
      | none => if c = .null then none else some c
      | some b => if b.before c then some c else some b) none

def sortBy {α : Type} (before : α → α → Bool) (rows : List α) : List α :=
  rows.mergeSort fun a b => !before b a

private def isSpace (c : Char) : Bool := c == ' ' || (9 ≤ c.toNat && c.toNat ≤ 13)

private structure Numeral where
  negative : Bool
  significand : Nat
  exponent : Int
  /-- Written without a point and without a power of ten. -/
  isWhole : Bool
  rest : List Char

private def power? (s : List Char) : Option (Int × List Char) :=
  match s with
  | mark :: s =>
    let (negative, s) := match s with
      | '-' :: s => (true, s)
      | '+' :: s => (false, s)
      | s => (false, s)
    let digits := s.takeWhile Char.isDigit
    if (mark = 'e' || mark = 'E') && !digits.isEmpty then
      let n : Int := Decimal.digitsValue digits
      some (if negative then -n else n, s.dropWhile Char.isDigit)
    else none
  | [] => none

private def numeral? (s : List Char) : Option Numeral :=
  let (negative, s) := match s.dropWhile isSpace with
    | '-' :: s => (true, s)
    | '+' :: s => (false, s)
    | s => (false, s)
  let whole := s.takeWhile Char.isDigit
  let s := s.dropWhile Char.isDigit
  let (hasPoint, fraction, s) := match s with
    | '.' :: s => (true, s.takeWhile Char.isDigit, s.dropWhile Char.isDigit)
    | s => (false, [], s)
  let digits := whole ++ fraction
  if digits.isEmpty then none
  else
    let (hasPower, power, s) := match power? s with
      | some (power, s) => (true, power, s)
      | none => (false, 0, s)
    some ⟨negative, Decimal.digitsValue digits, power - fraction.length, !hasPoint && !hasPower, s⟩

def fitsInteger (i : Int) : Bool := -(Nat.pow 2 63 : Nat) ≤ i && i < (Nat.pow 2 63 : Nat)

/-- A whole number that a cell cannot hold as such becomes the nearest real one. -/
def ofInt (i : Int) : Cell := if fitsInteger i then .int i else .real (.ofInt i)

private def Numeral.cell (n : Numeral) : Cell :=
  let value : Int := if n.negative then -(n.significand : Int) else n.significand
  if n.isWhole && fitsInteger value then .int value
  else .real ((Double.ofDecimal n.negative n.significand n.exponent).getD
    ⟨n.negative, Nat.pow 2 53 - 1, 971⟩)

/-- A real number that is whole becomes an integer, unless it is the least one there is. -/
private def wholeReal (x : Double) : Cell :=
  let (num, den) := ratio x
  if num % den = 0 && fitsInteger (num / den - 1) && fitsInteger (num / den) then .int (num / den)
  else .real x

/-- The value as a column of whole numbers stores it: a text that spells a number becomes it, and
so does a real number that is whole. -/
def asInteger : Cell → Cell
  | .text s =>
    match numeral? s.toList with
    | none => .text s
    | some n =>
      if !n.rest.all isSpace then .text s
      else
        match n.cell with
        | .real x => wholeReal x
        | c => c
  | .real x => wholeReal x
  | c => c

/-- The text of a real number: its fifteen leading digits. -/
def realText (x : Double) : String :=
  let (digits, lead) := Decimal.leading 15 x
  String.ofList (Decimal.Style.column.write x.negative digits lead)

def asText : Cell → Cell
  | .int i => .text (String.ofList (Decimal.ofInt i))
  | .real x => .text (realText x)
  | c => c

/-- The number at the start of a text, 0 where there is none. -/
private def leadingNumber (s : List Char) : Cell := ((numeral? s).map Numeral.cell).getD (.int 0)

private def numberAfter : Cell → Cell
  | .int i => ofInt (i + 1)
  | c => c

/-- One more than the cell's number; past the greatest whole number, and after a real number, it
is no whole number. -/
def successor : Cell → Cell
  | .text s => numberAfter (leadingNumber s.toList)
  | .blob bytes => numberAfter (leadingNumber (bytes.map fun b => Char.ofNat b.toNat))
  | .null => .int 1
  | c => numberAfter c

structure ColumnFault where
  found : Cell
  index : Nat
  column : String

def ColumnFault.message (f : ColumnFault) : String :=
  "Invalid column type " ++ f.found.kindName ++ " at index: " ++ decimal f.index ++ ", name: " ++
    f.column

def readText (index : Nat) (column : String) : Cell → Except ColumnFault String
  | .text s => .ok s
  | found => .error ⟨found, index, column⟩

def readInt (index : Nat) (column : String) : Cell → Except ColumnFault Int
  | .int i => .ok i
  | found => .error ⟨found, index, column⟩

def readFlag (index : Nat) (column : String) : Cell → Except ColumnFault Bool
  | .int i => .ok (i != 0)
  | found => .error ⟨found, index, column⟩

def readOption {α : Type} (read : Nat → String → Cell → Except ColumnFault α) (index : Nat)
    (column : String) : Cell → Except ColumnFault (Option α)
  | .null => .ok none
  | c => (read index column c).map some

end Cell

end PathAudit
