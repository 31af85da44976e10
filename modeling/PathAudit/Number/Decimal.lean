import PathAudit.Number.Double

/-! Decimal text of numbers. The digits of a double are either the fewest that round back to it, of
those the nearest, a tie going to the even last digit, or a fixed count of leading ones, a half
going up. A style says which powers of ten are written positionally and how the others are. -/
namespace PathAudit.Decimal

/-- The value lies in the interval of reals that round to `x`; `num / den` is the candidate. The
interval includes its ends exactly when the mantissa is even, and below a power of two it is half
as wide. -/
def roundsTo (x : Double) (num den : Nat) : Bool :=
  let quarter : Nat := x.den * 4
  let unit : Nat := Double.pow2 x.exponent
  let value := x.num * 4
  let above := value + 2 * unit
  let below := value - (if x.mantissa = Nat.pow 2 52 ∧ x.exponent ≠ -1074 then unit else 2 * unit)
  if x.mantissa % 2 = 0 then below * den ≤ num * quarter && num * quarter ≤ above * den
  else below * den < num * quarter && num * quarter < above * den

def log10 (num den : Nat) : Int :=
  let digits (n : Nat) : Int := (Nat.toDigits 10 n).length
  let guess := digits num - digits den
  if num * Nat.pow 10 (-guess).toNat < den * Nat.pow 10 guess.toNat then guess - 1 else guess

/-- The grid point of `count` digits that stands for `x`, if one of the two neighbours does. -/
def onGrid (x : Double) (lead : Int) (count : Nat) : Option Nat :=
  let shift : Int := lead - count + 1
  let up := Nat.pow 10 shift.toNat
  let down := Nat.pow 10 (-shift).toNat
  let under := x.num * down / (x.den * up)
  let above := under + 1
  let fits (n : Nat) : Bool := roundsTo x (n * up) down
  match fits under, fits above with
  | false, false => none
  | true, false => some under
  | false, true => some above
  | true, true =>
    let gap := 2 * (x.num * down)
    let middle := (under + above) * (x.den * up)
    if gap < middle then some under
    else if middle < gap then some above
    else some (if under % 2 = 0 then under else above)

def search (x : Double) (lead : Int) : Nat → Nat → Nat × Nat
  | 0, count => (x.num / x.den, count)
  | fuel + 1, count =>
    match onGrid x lead count with
    | some n => (n, count)
    | none => search x lead fuel (count + 1)

def dropZeros (digits : List Char) : List Char :=
  (digits.reverse.dropWhile (· == '0')).reverse

/-- Shortest digits and the power of ten of the first one; zero has no digits. -/
def shortest (x : Double) : List Char × Int :=
  if x.mantissa = 0 then ([], 0)
  else
    let lead := log10 x.num x.den
    let (n, count) := search x lead 17 1
    let digits := Nat.toDigits 10 n
    (dropZeros digits, lead + digits.length - count)

/-- At most `count` leading digits, a half going up, and the power of ten of the first one. -/
def leading (count : Nat) (x : Double) : List Char × Int :=
  if x.mantissa = 0 then ([], 0)
  else
    let lead := log10 x.num x.den
    let shift : Int := lead - count + 1
    let num := x.num * Nat.pow 10 (-shift).toNat
    let den := x.den * Nat.pow 10 shift.toNat
    let digits := Nat.toDigits 10 ((2 * num + den) / (2 * den))
    (dropZeros digits, lead + digits.length - count)

def positional (digits : List Char) (lead : Int) : List Char :=
  if lead < 0 then
    ['0', '.'] ++ List.replicate (-lead - 1).toNat '0' ++ digits
  else
    let whole := lead.toNat + 1
    if digits.length ≤ whole then
      digits ++ List.replicate (whole - digits.length) '0' ++ ['.', '0']
    else digits.take whole ++ ['.'] ++ digits.drop whole

structure Style where
  least : Int
  greatest : Int
  /-- A significand of one digit keeps `.0` before the power. -/
  pointed : Bool
  width : Nat
  signedZero : Bool

/-- Positional from `10 ^ -5` up to `10 ^ 16`, powers as they are. -/
def Style.plain : Style := ⟨-5, 15, false, 1, true⟩

/-- Positional while fifteen digits suffice, powers of at least two digits, zero without a sign. -/
def Style.column : Style := ⟨-4, 14, true, 2, false⟩

def Style.scientific (style : Style) (digits : List Char) (lead : Int) : List Char :=
  let mantissa :=
    match digits with
    | [] => ['0']
    | [d] => if style.pointed then [d, '.', '0'] else [d]
    | d :: rest => d :: '.' :: rest
  let sign := if lead < 0 then '-' else '+'
  let power := Nat.toDigits 10 lead.natAbs
  mantissa ++ ['e', sign] ++ List.replicate (style.width - power.length) '0' ++ power

def Style.write (style : Style) (negative : Bool) (digits : List Char) (lead : Int) : List Char :=
  let sign := if negative && (style.signedZero || !digits.isEmpty) then ['-'] else []
  let body :=
    if style.least ≤ lead ∧ lead ≤ style.greatest then positional digits lead
    else style.scientific digits lead
  sign ++ body

def ofDouble (x : Double) : List Char :=
  let (digits, lead) := shortest x
  Style.plain.write x.negative digits lead

def ofNat (n : Nat) : List Char := Nat.toDigits 10 n

def ofInt (i : Int) : List Char :=
  if i < 0 then '-' :: ofNat i.natAbs else ofNat i.natAbs

def digitsValue (digits : List Char) : Nat :=
  digits.foldl (fun n d => n * 10 + (d.toNat - 48)) 0

end PathAudit.Decimal

namespace PathAudit

def decimal (n : Nat) : String := String.ofList (Decimal.ofNat n)

end PathAudit
