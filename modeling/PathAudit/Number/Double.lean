/-! Finite binary floating-point numbers of 64 bits, held as sign, mantissa and power of two, and
rounding of exact quotients to them. Nothing here uses machine arithmetic: every operation forms
the exact result as a quotient of naturals and rounds once. -/
namespace PathAudit

/-- A binary format: how many bits a mantissa has, and the least and the greatest power of two
that a mantissa is scaled by. -/
structure BinaryFormat where
  bits : Nat
  least : Int
  greatest : Int

def BinaryFormat.double : BinaryFormat := ⟨53, -1074, 971⟩

def BinaryFormat.single : BinaryFormat := ⟨24, -149, 104⟩

/-- The number `mantissa * 2 ^ exponent` with a sign. Values made by `round` are normal: the
mantissa fills the format's bits, or the exponent is the least one. -/
structure Double where
  negative : Bool
  mantissa : Nat
  exponent : Int
  deriving DecidableEq, Repr, Inhabited

namespace Double

def zero (negative : Bool) : Double := ⟨negative, 0, -1074⟩

def isZero (x : Double) : Bool := x.mantissa == 0

def pow2 (n : Int) : Nat := Nat.pow 2 n.toNat

/-- `num / den` to the nearest natural, a half to the even one. -/
def roundDiv (num den : Nat) : Nat :=
  let q := num / den
  let twice := 2 * (num % den)
  if twice < den then q
  else if den < twice then q + 1
  else q + q % 2

def log2Ratio (num den : Nat) : Int :=
  let guess : Int := (Nat.log2 num : Int) - Nat.log2 den
  if num * pow2 (-guess) < den * pow2 guess then guess - 1 else guess

/-- The nearest number of the format, a half to the even mantissa; `none` beyond its range. -/
def round (fmt : BinaryFormat) (negative : Bool) (num den : Nat) : Option Double :=
  if num = 0 then some (zero negative)
  else
    let scale := max (log2Ratio num den - fmt.bits + 1) fmt.least
    let m := roundDiv (num * pow2 (-scale)) (den * pow2 scale)
    if m < Nat.pow 2 fmt.bits then
      if m = 0 then some (zero negative)
      else if scale ≤ fmt.greatest then some ⟨negative, m, scale⟩ else none
    else if scale < fmt.greatest then some ⟨negative, Nat.pow 2 (fmt.bits - 1), scale + 1⟩ else none

def num (x : Double) : Nat := x.mantissa * pow2 x.exponent

def den (x : Double) : Nat := pow2 (-x.exponent)

def ofNat (n : Nat) : Double := (round .double false n 1).getD (zero false)

def ofInt (i : Int) : Double := (round .double (decide (i < 0)) i.natAbs 1).getD (zero false)

def mul (x y : Double) : Option Double :=
  round .double (x.negative != y.negative) (x.num * y.num) (x.den * y.den)

def div (x y : Double) : Option Double :=
  round .double (x.negative != y.negative) (x.num * y.den) (x.den * y.num)

def pow10 (k : Nat) : Double := (round .double false (Nat.pow 10 k) 1).getD (zero false)

def roundSingle (negative : Bool) (num den : Nat) : Option Double := do
  let y ← round .single negative num den
  round .double y.negative y.num y.den

def throughSingle (x : Double) : Option Double := roundSingle x.negative x.num x.den

/-- Divides by `10 ^ k`, in steps of `10 ^ 308` while the power has no double of its own. -/
def scaleDown (x : Double) (k : Nat) : Double :=
  if k ≤ 308 then (div x (pow10 k)).getD x
  else if x.isZero then x
  else scaleDown ((div x (pow10 308)).getD x) (k - 308)
termination_by k

/-- The number a written significand and power of ten stand for: the significand is rounded, then
scaled by a rounded power of ten. `none` when the result has no double. -/
def ofParts (negative : Bool) (significand : Nat) (exponent : Int) : Option Double :=
  let x := { ofNat significand with negative }
  if exponent < 0 then some (scaleDown x (-exponent).toNat)
  else if exponent ≤ 308 then mul x (pow10 exponent.toNat) |>.map fun y => { y with negative }
  else if x.isZero then some x
  else none

/-- The nearest double of `significand * 10 ^ exponent`; `none` beyond its range. A power that takes
any significand out of range on either side decides by itself. -/
def ofDecimal (negative : Bool) (significand : Nat) (exponent : Int) : Option Double :=
  if significand = 0 then some (zero negative)
  else if 309 ≤ exponent then none
  else if exponent < -(Nat.log2 significand : Int) - 400 then some (zero negative)
  else
    round .double negative (significand * Nat.pow 10 exponent.toNat)
      (Nat.pow 10 (-exponent).toNat)

end Double

end PathAudit
