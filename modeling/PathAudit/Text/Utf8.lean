import PathAudit.Number.Total

/-! Bytes of a text in UTF-8: sizes, the longest head that fits a number of bytes, reading and
writing of byte lists, hexadecimal and base 64. -/
namespace PathAudit.Utf8

def size (s : List Char) : Nat := total Char.utf8Size s

/-- The longest head of the text with at most `limit` bytes. -/
def takeBytes (limit : Nat) : List Char → List Char
  | [] => []
  | c :: rest =>
    if c.utf8Size ≤ limit then c :: takeBytes (limit - c.utf8Size) rest else []

theorem size_takeBytes_le (limit : Nat) (s : List Char) : size (takeBytes limit s) ≤ limit := by
  induction s generalizing limit with
  | nil => simp [takeBytes, size]
  | cons c rest ih =>
    simp only [takeBytes]
    split
    · next fits =>
      have := ih (limit - c.utf8Size)
      simp only [size, total_cons] at this ⊢
      omega
    · simp [size]

def encodeChar (c : Char) : List UInt8 :=
  let n := c.toNat
  if n < 0x80 then [n.toUInt8]
  else if n < 0x800 then [(0xC0 + n / 0x40).toUInt8, (0x80 + n % 0x40).toUInt8]
  else if n < 0x10000 then
    [(0xE0 + n / 0x1000).toUInt8, (0x80 + n / 0x40 % 0x40).toUInt8, (0x80 + n % 0x40).toUInt8]
  else
    [(0xF0 + n / 0x40000).toUInt8, (0x80 + n / 0x1000 % 0x40).toUInt8,
      (0x80 + n / 0x40 % 0x40).toUInt8, (0x80 + n % 0x40).toUInt8]

def encode (s : List Char) : List UInt8 := s.flatMap encodeChar

private def tail? (b : UInt8) : Option Nat :=
  if 0x80 ≤ b.toNat ∧ b.toNat < 0xC0 then some (b.toNat - 0x80) else none

/-- A character whose code needs at least `least`, so that no code has two spellings. -/
private def scalar? (least n : Nat) : Option Char :=
  if least ≤ n ∧ n.isValidChar then some (Char.ofNat n) else none

/-- The text of well-formed bytes; `none` when some byte belongs to no character. -/
def decode : List UInt8 → Option (List Char)
  | [] => some []
  | a :: rest =>
    let n := a.toNat
    if n < 0x80 then (decode rest).map (Char.ofNat n :: ·)
    else if 0xC0 ≤ n ∧ n < 0xE0 then
      match rest with
      | b :: rest => do
        let c ← scalar? 0x80 ((n - 0xC0) * 0x40 + (← tail? b))
        (decode rest).map (c :: ·)
      | _ => none
    else if 0xE0 ≤ n ∧ n < 0xF0 then
      match rest with
      | b :: c :: rest => do
        let c ← scalar? 0x800 ((n - 0xE0) * 0x1000 + (← tail? b) * 0x40 + (← tail? c))
        (decode rest).map (c :: ·)
      | _ => none
    else if 0xF0 ≤ n then
      match rest with
      | b :: c :: d :: rest => do
        let c ← scalar? 0x10000
          ((n - 0xF0) * 0x40000 + (← tail? b) * 0x1000 + (← tail? c) * 0x40 + (← tail? d))
        (decode rest).map (c :: ·)
      | _ => none
    else none

private theorem toNat_toUInt8 {n : Nat} (small : n < 256) : n.toUInt8.toNat = n :=
  Nat.mod_eq_of_lt small

private theorem tail?_toUInt8 (n : Nat) : tail? (0x80 + n % 0x40).toUInt8 = some (n % 0x40) := by
  have byte : (0x80 + n % 0x40).toUInt8.toNat = 0x80 + n % 0x40 := toNat_toUInt8 (by omega)
  rw [tail?, byte, if_pos ⟨by omega, by omega⟩, Nat.add_sub_cancel_left]

private theorem scalar?_toNat {least : Nat} (c : Char) (enough : least ≤ c.toNat) :
    scalar? least c.toNat = some c := by
  rw [scalar?, if_pos ⟨enough, c.valid⟩, Char.ofNat_toNat]

private theorem decode_one {n : Nat} (small : n < 0x80) (rest : List UInt8) :
    decode (n.toUInt8 :: rest) = (decode rest).map (Char.ofNat n :: ·) := by
  have head : n.toUInt8.toNat = n := toNat_toUInt8 (by omega)
  conv => lhs; unfold decode
  simp only [head, small, if_true]

private theorem decode_two {n : Nat} {c : Char} (small : n < 0x800)
    (known : scalar? 0x80 n = some c) (rest : List UInt8) :
    decode ((0xC0 + n / 0x40).toUInt8 :: (0x80 + n % 0x40).toUInt8 :: rest) =
      (decode rest).map (c :: ·) := by
  have head : (0xC0 + n / 0x40).toUInt8.toNat = 0xC0 + n / 0x40 := toNat_toUInt8 (by omega)
  have whole : (0xC0 + n / 0x40 - 0xC0) * 0x40 + n % 0x40 = n := by omega
  rw [decode, head, if_neg (by omega), if_pos (by omega)]
  simp only [tail?_toUInt8, Option.bind_eq_bind, Option.bind_some, whole, known]

private theorem decode_three {n : Nat} {c : Char} (small : n < 0x10000)
    (known : scalar? 0x800 n = some c) (rest : List UInt8) :
    decode ((0xE0 + n / 0x1000).toUInt8 :: (0x80 + n / 0x40 % 0x40).toUInt8 ::
      (0x80 + n % 0x40).toUInt8 :: rest) = (decode rest).map (c :: ·) := by
  have head : (0xE0 + n / 0x1000).toUInt8.toNat = 0xE0 + n / 0x1000 := toNat_toUInt8 (by omega)
  have whole : (0xE0 + n / 0x1000 - 0xE0) * 0x1000 + n / 0x40 % 0x40 * 0x40 + n % 0x40 = n := by
    omega
  rw [decode, head, if_neg (by omega), if_neg (by omega), if_pos (by omega)]
  simp only [tail?_toUInt8, Option.bind_eq_bind, Option.bind_some, whole, known]

private theorem decode_four {n : Nat} {c : Char} (small : n < 0x110000)
    (known : scalar? 0x10000 n = some c) (rest : List UInt8) :
    decode ((0xF0 + n / 0x40000).toUInt8 :: (0x80 + n / 0x1000 % 0x40).toUInt8 ::
      (0x80 + n / 0x40 % 0x40).toUInt8 :: (0x80 + n % 0x40).toUInt8 :: rest) =
      (decode rest).map (c :: ·) := by
  have head : (0xF0 + n / 0x40000).toUInt8.toNat = 0xF0 + n / 0x40000 :=
    toNat_toUInt8 (by omega)
  have whole : (0xF0 + n / 0x40000 - 0xF0) * 0x40000 + n / 0x1000 % 0x40 * 0x1000 +
      n / 0x40 % 0x40 * 0x40 + n % 0x40 = n := by
    omega
  rw [decode, head, if_neg (by omega), if_neg (by omega), if_neg (by omega), if_pos (by omega)]
  -- Rewritten and not computed: comparing the sums as numerals would count up to 0x40000.
  dsimp only
  rw [tail?_toUInt8, tail?_toUInt8, tail?_toUInt8, Option.bind_eq_bind, Option.bind_some,
    Option.bind_some, Option.bind_some, whole, known]
  rfl

theorem decode_encodeChar_append (c : Char) (rest : List UInt8) :
    decode (encodeChar c ++ rest) = (decode rest).map (c :: ·) := by
  have limit : c.toNat < 0x110000 := by
    have valid : c.toNat < 0xD800 ∨ 0xDFFF < c.toNat ∧ c.toNat < 0x110000 := c.valid
    omega
  unfold encodeChar
  dsimp only
  split
  next one =>
    have read := decode_one one rest
    rwa [Char.ofNat_toNat] at read
  next above =>
    split
    next two => exact decode_two two (scalar?_toNat c (Nat.le_of_not_lt above)) rest
    next above =>
      split
      next three => exact decode_three three (scalar?_toNat c (Nat.le_of_not_lt above)) rest
      next above => exact decode_four limit (scalar?_toNat c (Nat.le_of_not_lt above)) rest

theorem decode_encode (s : List Char) : decode (encode s) = some s := by
  induction s with
  | nil => rfl
  | cons c s ih => rw [encode, List.flatMap_cons, decode_encodeChar_append, ← encode, ih]; rfl

private def within (low high : Nat) (b : UInt8) : Bool := low ≤ b.toNat && b.toNat ≤ high

private def tailBits (b : UInt8) : Nat := b.toNat % 0x40

def replacement : Char := Char.ofNat 0xFFFD

/-- The text of any bytes: the longest start of a character that is broken off, or a byte that
starts none, becomes one replacement character. -/
def decodeLossy : List UInt8 → List Char
  | [] => []
  | a :: rest =>
    let n := a.toNat
    if n < 0x80 then Char.ofNat n :: decodeLossy rest
    else if within 0xC2 0xDF a then
      match rest with
      | b :: tail =>
        if within 0x80 0xBF b then
          Char.ofNat ((n - 0xC0) * 0x40 + tailBits b) :: decodeLossy tail
        else replacement :: decodeLossy (b :: tail)
      | [] => [replacement]
    else if within 0xE0 0xEF a then
      match rest with
      | b :: tail =>
        if within (if n = 0xE0 then 0xA0 else 0x80) (if n = 0xED then 0x9F else 0xBF) b then
          match tail with
          | c :: tail =>
            if within 0x80 0xBF c then
              Char.ofNat ((n - 0xE0) * 0x1000 + tailBits b * 0x40 + tailBits c) :: decodeLossy tail
            else replacement :: decodeLossy (c :: tail)
          | [] => [replacement]
        else replacement :: decodeLossy (b :: tail)
      | [] => [replacement]
    else if within 0xF0 0xF4 a then
      match rest with
      | b :: tail =>
        if within (if n = 0xF0 then 0x90 else 0x80) (if n = 0xF4 then 0x8F else 0xBF) b then
          match tail with
          | c :: tail =>
            if within 0x80 0xBF c then
              match tail with
              | d :: tail =>
                if within 0x80 0xBF d then
                  Char.ofNat ((n - 0xF0) * 0x40000 + tailBits b * 0x1000 + tailBits c * 0x40 +
                    tailBits d) :: decodeLossy tail
                else replacement :: decodeLossy (d :: tail)
              | [] => [replacement]
            else replacement :: decodeLossy (c :: tail)
          | [] => [replacement]
        else replacement :: decodeLossy (b :: tail)
      | [] => [replacement]
    else replacement :: decodeLossy rest

def hexDigit? (c : Char) : Option Nat :=
  if '0' ≤ c ∧ c ≤ '9' then some (c.toNat - 48)
  else if 'a' ≤ c ∧ c ≤ 'f' then some (c.toNat - 87)
  else if 'A' ≤ c ∧ c ≤ 'F' then some (c.toNat - 55)
  else none

def ofHex : List Char → Option (List UInt8)
  | [] => some []
  | a :: b :: rest => do
    let byte := (← hexDigit? a) * 16 + (← hexDigit? b)
    (ofHex rest).map (byte.toUInt8 :: ·)
  | [_] => none

private def base64Char (n : Nat) : Char :=
  if n < 26 then Char.ofNat (65 + n)
  else if n < 52 then Char.ofNat (71 + n)
  else if n < 62 then Char.ofNat (n - 4)
  else if n = 62 then '+'
  else '/'

def base64 : List UInt8 → List Char
  | [] => []
  | [a] =>
    let n := a.toNat * 16
    [base64Char (n / 64), base64Char (n % 64), '=', '=']
  | [a, b] =>
    let n := (a.toNat * 256 + b.toNat) * 4
    [base64Char (n / 4096), base64Char (n / 64 % 64), base64Char (n % 64), '=']
  | a :: b :: c :: rest =>
    let n := a.toNat * 65536 + b.toNat * 256 + c.toNat
    base64Char (n / 262144) :: base64Char (n / 4096 % 64) :: base64Char (n / 64 % 64) ::
      base64Char (n % 64) :: base64 rest

end PathAudit.Utf8

namespace PathAudit

def byteSize (s : String) : Nat := Utf8.size s.toList

end PathAudit
