import PathAudit.Json.Fault
import PathAudit.Text.Utf8

/-! A JSON text as it is written, up to its first break. Reading a value and skipping over one do
not object to the same things: a skipped value may be too deep, too large or hold half a
surrogate pair, and the two notice some breaks under different names. A `Raw` document therefore
keeps the break itself, under the name that each use gives it, at the place where it occurs; what
stands before it can still be looked at. -/
namespace PathAudit

/-- How the list of elements ends. A break has a name for a reader, for one who skips, and for
one who has read all the elements wanted. -/
inductive ListEnd where
  | closed
  | broken (reading skipping satisfied : JsonFault)
  deriving Repr, Inhabited

inductive MapEnd where
  | closed
  | broken (reading skipping : JsonFault)
  deriving Repr, Inhabited

inductive Raw where
  | null
  | bool (value : Bool)
  | number (value : JsonNumber)
  | string (value : String)
  | array (items : List Raw) (ending : ListEnd)
  | object (members : List (Except JsonFault String × Raw)) (ending : MapEnd)
  /-- A complete value that can be skipped and not read. -/
  | unreadable (fault : JsonFault)
  /-- No complete value; nothing after it can be looked at. -/
  | broken (reading skipping : JsonFault)
  deriving Repr, Inhabited

namespace Raw

def isSpace (c : Char) : Bool := c == ' ' || c == '\n' || c == '\t' || c == '\r'

def skipSpace (s : List Char) : List Char := s.dropWhile isSpace

/-- A scanned string: its text for a reader, and what follows it. -/
structure Scanned where
  text : Except JsonFault (List Char)
  rest : Except JsonFault (List Char)

def Scanned.push (c : Char) (s : Scanned) : Scanned := { s with text := s.text.map (c :: ·) }

/-- The reader stops here; one who skips goes on. -/
def Scanned.refuse (fault : JsonFault) (s : Scanned) : Scanned := { s with text := .error fault }

def Scanned.stop (fault : JsonFault) : Scanned := ⟨.error fault, .error fault⟩

/-- Four hexadecimal digits. The digits are looked for among the next four bytes. -/
def hex4 : List Char → Except JsonFault (Nat × List Char)
  | a :: b :: c :: d :: rest =>
    match Utf8.hexDigit? a, Utf8.hexDigit? b, Utf8.hexDigit? c, Utf8.hexDigit? d with
    | some a, some b, some c, some d => .ok (a * 4096 + b * 256 + c * 16 + d, rest)
    | _, _, _, _ => .error .invalidEscape
  | few => .error (if 4 ≤ Utf8.size few then .invalidEscape else .eofString)

def simpleEscape? (c : Char) : Option Char :=
  if c = '"' then some '"'
  else if c = '\\' then some '\\'
  else if c = '/' then some '/'
  else if c = 'b' then some '\x08'
  else if c = 'f' then some '\x0c'
  else if c = 'n' then some '\n'
  else if c = 'r' then some '\r'
  else if c = 't' then some '\t'
  else none

/-- What a `\u` escape with code `n`, followed by `rest`, means to a reader: the character and how
many characters of `rest` belong to it. -/
def unicodeEscape (n : Nat) (rest : List Char) : Except JsonFault (Char × Nat) :=
  if 0xDC00 ≤ n ∧ n ≤ 0xDFFF then .error .loneSurrogate
  else if n < 0xD800 ∨ 0xDBFF < n then .ok (Char.ofNat n, 0)
  else
    match rest with
    | [] => .error .eofString
    | '\\' :: rest =>
      match rest with
      | [] => .error .eofString
      | 'u' :: rest => do
        let (m, _) ← hex4 rest
        if m < 0xDC00 ∨ 0xDFFF < m then .error .loneSurrogate
        else .ok (Char.ofNat ((n - 0xD800) * 1024 + (m - 0xDC00) + 0x10000), 6)
      | _ => .error .endOfHexEscape
    | _ => .error .endOfHexEscape

def scanString : Nat → List Char → Scanned
  | 0, _ => .stop .eofString
  | _ + 1, [] => .stop .eofString
  | fuel + 1, c :: rest =>
    if c = '"' then ⟨.ok [], .ok rest⟩
    else if c = '\\' then
      match rest with
      | [] => .stop .eofString
      | e :: rest =>
        if e = 'u' then
          match hex4 rest with
          | .error fault => .stop fault
          | .ok (n, rest) =>
            match unicodeEscape n rest with
            | .ok (c, more) => (scanString fuel (rest.drop more)).push c
            | .error fault => (scanString fuel rest).refuse fault
        else
          match simpleEscape? e with
          | some c => (scanString fuel rest).push c
          | none => .stop .invalidEscape
    else if c.toNat < 32 then .stop .controlCharacter
    else (scanString fuel rest).push c

/-- Appends digits while the significand fits 64 bits; the rest are left over. -/
def accumulate (significand : Nat) : List Char → Nat × List Char
  | [] => (significand, [])
  | d :: rest =>
    let next := significand * 10 + (d.toNat - 48)
    if next < Nat.pow 2 64 then accumulate next rest else (significand, d :: rest)

/-- A scanned number: its value for a reader and what follows, or a break. -/
abbrev NumberScan := Except (JsonFault × JsonFault) (Except JsonFault JsonNumber × List Char)

def ofParts (negative : Bool) (significand : Nat) (exponent : Int) :
    Except JsonFault JsonNumber :=
  match Double.ofParts negative significand exponent with
  | some x => .ok (.float x)
  | none => .error .numberOutOfRange

def scanExponent (negative : Bool) (significand : Nat) (start : Int) (s : List Char) : NumberScan :=
  let (minus, s) :=
    match s with
    | '+' :: s => (false, s)
    | '-' :: s => (true, s)
    | s => (false, s)
  let digits := s.takeWhile Char.isDigit
  let rest := s.dropWhile Char.isDigit
  if digits.isEmpty then
    .error (if s.isEmpty then .eofValue else .invalidNumber, .invalidNumber)
  else
    let size := Decimal.digitsValue digits
    let value :=
      if size < Nat.pow 2 31 then
        ofParts negative significand (if minus then start - size else start + size)
      else if significand ≠ 0 ∧ !minus then .error .numberOutOfRange
      else .ok (.float (Double.zero negative))
    .ok (value, rest)

def scanFraction (negative : Bool) (significand : Nat) (start : Int) (s : List Char) : NumberScan :=
  let digits := s.takeWhile Char.isDigit
  let rest := s.dropWhile Char.isDigit
  if digits.isEmpty then
    .error (if s.isEmpty then .eofValue else .invalidNumber, .invalidNumber)
  else
    let (significand, surplus) := accumulate significand digits
    let exponent := start - (digits.length - surplus.length : Nat)
    match rest with
    | 'e' :: rest => scanExponent negative significand exponent rest
    | 'E' :: rest => scanExponent negative significand exponent rest
    | rest => .ok (ofParts negative significand exponent, rest)

/-- A number without its sign. An integer that fits 64 bits stays one, other numbers and the
negative zero become doubles. -/
def scanNumber (negative : Bool) (s : List Char) : NumberScan :=
  let digits := s.takeWhile Char.isDigit
  let rest := s.dropWhile Char.isDigit
  match digits with
  | [] => .error (if rest.isEmpty then .eofValue else .invalidNumber, .invalidNumber)
  | '0' :: _ :: _ => .error (.invalidNumber, .invalidNumber)
  | digits =>
    let (significand, surplus) := accumulate 0 digits
    let exponent : Int := surplus.length
    match rest with
    | '.' :: rest => scanFraction negative significand exponent rest
    | 'e' :: rest => scanExponent negative significand exponent rest
    | 'E' :: rest => scanExponent negative significand exponent rest
    | rest =>
      let value :=
        if surplus.isEmpty then
          if !negative then .ok (.int significand)
          else if significand = 0 ∨ Nat.pow 2 63 < significand then
            .ok (.float { Double.ofNat significand with negative := true })
          else .ok (.int (-significand))
        else ofParts negative significand exponent
      .ok (value, rest)

def scanWord : List Char → List Char → Except JsonFault (List Char)
  | [], rest => .ok rest
  | _ :: _, [] => .error .eofValue
  | c :: word, d :: rest => if c = d then scanWord word rest else .error .expectedIdent

def word (letters : String) (value : Raw) (s : List Char) : Raw × Option (List Char) :=
  match scanWord letters.toList s with
  | .ok rest => (value, some rest)
  | .error fault => (.broken fault fault, none)

def numeral (scan : NumberScan) : Raw × Option (List Char) :=
  match scan with
  | .ok (.ok n, rest) => (.number n, some rest)
  | .ok (.error fault, rest) => (.unreadable fault, some rest)
  | .error (reading, skipping) => (.broken reading skipping, none)

def text (scan : Scanned) : Raw × Option (List Char) :=
  match scan.rest, scan.text with
  | .ok rest, .ok s => (.string (String.ofList s), some rest)
  | .ok rest, .error fault => (.unreadable fault, some rest)
  | .error skipping, .ok _ => (.broken skipping skipping, none)
  | .error skipping, .error reading => (.broken reading skipping, none)

mutual

/-- One value and the text after it; no text after a break. -/
def scan : Nat → List Char → Raw × Option (List Char)
  | 0, _ => (.broken .eofValue .eofValue, none)
  | fuel + 1, s =>
    match skipSpace s with
    | [] => (.broken .eofValue .eofValue, none)
    | c :: rest =>
      if c = '"' then text (scanString fuel rest)
      else if c = '\x7b' then
        let (members, ending, after) := scanMembers fuel true rest
        (.object members ending, after)
      else if c = '[' then
        let (items, ending, after) := scanItems fuel true rest
        (.array items ending, after)
      else if c = 'n' then word "ull" .null rest
      else if c = 't' then word "rue" (.bool true) rest
      else if c = 'f' then word "alse" (.bool false) rest
      else if c = '-' then numeral (scanNumber true rest)
      else if c.isDigit then numeral (scanNumber false (c :: rest))
      else (.broken .expectedValue .expectedValue, none)

def scanItems : Nat → Bool → List Char → List Raw × ListEnd × Option (List Char)
  | 0, _, _ => ([], .broken .eofList .eofList .eofList, none)
  | fuel + 1, first, s =>
    match skipSpace s with
    | [] => ([], .broken .eofList .eofList .eofList, none)
    | ']' :: rest => ([], .closed, some rest)
    | c :: rest =>
      if first then scanItem fuel (c :: rest)
      else if c = ',' then
        match skipSpace rest with
        | [] => ([], .broken .eofValue .eofValue .trailingCharacters, none)
        | ']' :: _ => ([], .broken .trailingComma .expectedValue .trailingComma, none)
        | rest => scanItem fuel rest
      else ([], .broken .expectedListEnd .expectedListEnd .trailingCharacters, none)

def scanItem : Nat → List Char → List Raw × ListEnd × Option (List Char)
  | 0, _ => ([], .broken .eofList .eofList .eofList, none)
  | fuel + 1, s =>
    match scan fuel s with
    | (item, none) => ([item], .closed, none)
    | (item, some rest) =>
      let (items, ending, after) := scanItems fuel false rest
      (item :: items, ending, after)

def scanMembers : Nat → Bool → List Char →
    List (Except JsonFault String × Raw) × MapEnd × Option (List Char)
  | 0, _, _ => ([], .broken .eofObject .eofObject, none)
  | fuel + 1, first, s =>
    match skipSpace s with
    | [] => ([], .broken .eofObject .eofObject, none)
    | '\x7d' :: rest => ([], .closed, some rest)
    | c :: rest =>
      if first then
        if c = '"' then scanMember fuel rest
        else ([], .broken .keyNotString .keyNotString, none)
      else if c = ',' then
        match skipSpace rest with
        | [] => ([], .broken .eofValue .eofObject, none)
        | '"' :: rest => scanMember fuel rest
        | '\x7d' :: _ => ([], .broken .trailingComma .keyNotString, none)
        | _ => ([], .broken .keyNotString .keyNotString, none)
      else ([], .broken .expectedObjectEnd .expectedObjectEnd, none)

def scanMember : Nat → List Char →
    List (Except JsonFault String × Raw) × MapEnd × Option (List Char)
  | 0, _ => ([], .broken .eofObject .eofObject, none)
  | fuel + 1, s =>
    let key := scanString fuel s
    match key.rest with
    | .error skipping =>
      match key.text with
      | .ok _ => ([], .broken skipping skipping, none)
      | .error reading => ([], .broken reading skipping, none)
    | .ok rest =>
      let name := key.text.map String.ofList
      match skipSpace rest with
      | [] => ([(name, .broken .eofObject .eofObject)], .closed, none)
      | ':' :: rest =>
        match scan fuel rest with
        | (value, none) => ([(name, value)], .closed, none)
        | (value, some rest) =>
          let (members, ending, after) := scanMembers fuel false rest
          ((name, value) :: members, ending, after)
      | _ => ([(name, .broken .expectedColon .expectedColon)], .closed, none)

end

structure Document where
  root : Raw
  trailing : Bool

def ofText (s : String) : Document :=
  let chars := s.toList
  let (root, rest) := scan (3 * chars.length + 3) chars
  ⟨root, match rest with
    | some rest => !(skipSpace rest).isEmpty
    | none => false⟩

mutual

/-- The first break that one who skips over the value meets. -/
def skip : Raw → Except JsonFault Unit
  | .array items ending => do
    skipItems items
    match ending with
    | .closed => .ok ()
    | .broken _ skipping _ => .error skipping
  | .object members ending => do
    skipMembers members
    match ending with
    | .closed => .ok ()
    | .broken _ skipping => .error skipping
  | .broken _ skipping => .error skipping
  | .null | .bool _ | .number _ | .string _ | .unreadable _ => .ok ()

def skipItems : List Raw → Except JsonFault Unit
  | [] => .ok ()
  | item :: items => do
    skip item
    skipItems items

def skipMembers : List (Except JsonFault String × Raw) → Except JsonFault Unit
  | [] => .ok ()
  | (_, value) :: members => do
    skip value
    skipMembers members

end

mutual

/-- The free-form value, or the first break that a reader meets. With a `depth`, at most so many
levels of arrays and objects may be entered. The last member of a repeated key counts. -/
def read (depth : Option Nat) : Raw → Except JsonFault Json
  | .null => .ok .null
  | .bool b => .ok (.bool b)
  | .number n => .ok (.number n)
  | .string s => .ok (.string s)
  | .unreadable fault => .error fault
  | .broken reading _ => .error reading
  | .array items ending =>
    if depth = some 0 then .error .tooDeep
    else do
      let items ← readItems (depth.map (· - 1)) items
      match ending with
      | .closed => .ok (.array items)
      | .broken reading _ _ => .error reading
  | .object members ending =>
    if depth = some 0 then .error .tooDeep
    else do
      let members ← readMembers (depth.map (· - 1)) members
      match ending with
      | .closed => .ok (.object (sortMembers members))
      | .broken reading _ => .error reading

def readItems (depth : Option Nat) : List Raw → Except JsonFault (List Json)
  | [] => .ok []
  | item :: items => do
    let item ← read depth item
    let items ← readItems depth items
    .ok (item :: items)

def readMembers (depth : Option Nat) :
    List (Except JsonFault String × Raw) → Except JsonFault (List (String × Json))
  | [] => .ok []
  | (key, value) :: members => do
    let key ← key
    let value ← read depth value
    let members ← readMembers depth members
    .ok ((key, value) :: members)

end

def maxDepth : Nat := 127

mutual

def ofJson : Json → Raw
  | .null => .null
  | .bool b => .bool b
  | .number n => .number n
  | .string s => .string s
  | .array items => .array (ofItems items) .closed
  | .object members => .object (ofMembers members) .closed

def ofItems : List Json → List Raw
  | [] => []
  | item :: items => ofJson item :: ofItems items

def ofMembers : List (String × Json) → List (Except JsonFault String × Raw)
  | [] => []
  | (key, value) :: members => (.ok key, ofJson value) :: ofMembers members

end

end Raw

def Json.parse (s : String) : Except JsonFault Json := do
  let document := Raw.ofText s
  let value ← document.root.read (some Raw.maxDepth)
  if document.trailing then .error .trailingCharacters else .ok value

end PathAudit
