import PathAudit.Text.Utf8

/-! Escapes in addresses: a byte is written as a percent sign and two hexadecimal digits. -/
namespace PathAudit.Escape

private def upperHex (n : Nat) : Char := if n < 10 then Char.ofNat (48 + n) else Char.ofNat (55 + n)

def byte (b : UInt8) : List Char := ['%', upperHex (b.toNat / 16), upperHex (b.toNat % 16)]

/-- Writes controls, the characters of the class and all outside ASCII as their bytes. -/
def escaped (escapes : Char → Bool) (s : List Char) : List Char :=
  s.flatMap fun c =>
    if c.toNat < 0x20 || 0x7F ≤ c.toNat || escapes c then (Utf8.encodeChar c).flatMap byte else [c]

def bytes : List Char → List UInt8
  | '%' :: a :: b :: rest =>
    match Utf8.hexDigit? a, Utf8.hexDigit? b with
    | some high, some low => (high * 16 + low).toUInt8 :: bytes rest
    | _, _ => Utf8.encodeChar '%' ++ bytes (a :: b :: rest)
  | c :: rest => Utf8.encodeChar c ++ bytes rest
  | [] => []

def meant? (s : List Char) : Option (List Char) := Utf8.decode (bytes s)

/-! The classes of characters that are escaped in the parts of an address. -/

def inFragment (c : Char) : Bool := [' ', '"', '<', '>', '`'].contains c

def inPath (c : Char) : Bool := inFragment c || ['#', '?', '\x7b', '\x7d'].contains c

def inUser (c : Char) : Bool :=
  inPath c || ['/', ':', ';', '=', '@', '[', '\\', ']', '^', '|'].contains c

def inQuery (c : Char) : Bool := [' ', '"', '#', '<', '>'].contains c

/-- Addresses whose scheme implies a host escape one character more. -/
def inHostedQuery (c : Char) : Bool := inQuery c || c == '\''

def nowhere (_ : Char) : Bool := false

end PathAudit.Escape
