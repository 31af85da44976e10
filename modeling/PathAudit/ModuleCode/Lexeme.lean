import PathAudit.ModuleCode.Cursor
import PathAudit.Text.Identifier

/-! Tokens that are known by their characters alone: names, words, numbers, marks and escapes, and
what may stand between any two tokens. Only tokens that may come next are looked for, and the
longest is taken. -/
namespace PathAudit.ModuleCode

namespace Lexeme

def isGap (c : Char) : Bool :=
  c == ' ' || ('\t' ≤ c && c ≤ '\r') || c == '\uFEFF' || c == '\u2060' || c == '\u200B'

/-- Digits in groups with single underscores between or after them. -/
def digits (p : Char → Bool) : List Char → Nat
  | [] => 0
  | [c] => if p c then 1 else 0
  | c :: d :: rest =>
    if p c then
      if d = '_' then
        match rest with
        | e :: _ => if p e then 2 + digits p rest else 2
        | [] => 2
      else 1 + digits p (d :: rest)
    else 0

private def isHex (c : Char) : Bool :=
  c.isDigit || ('a' ≤ c && c ≤ 'f') || ('A' ≤ c && c ≤ 'F')

private def oneOf (choices : List Char) (s : List Char) : Nat :=
  match s with
  | c :: _ => if choices.contains c then 1 else 0
  | [] => 0

private def based? (p : Char → Bool) (s : List Char) : Option Nat :=
  let lead := oneOf ['_'] s
  match digits p (s.drop lead) with
  | 0 => none
  | n =>
    let taken := lead + n
    let taken := if (s.take taken).getLast? = some '_' then taken - 1 else taken
    some (2 + taken + oneOf ['l', 'L'] (s.drop taken))

private def exponent (s : List Char) : Nat :=
  let lead := oneOf ['e', 'E'] s
  if lead = 0 then 0
  else
    let sign := oneOf ['+', '-'] (s.drop 1)
    match digits Char.isDigit (s.drop (1 + sign)) with
    | 0 => 0
    | n => 1 + sign + n

private def imaginary (s : List Char) : Nat := oneOf ['j', 'J'] s

private def decimal? (s : List Char) : Option Nat :=
  let whole := digits Char.isDigit s
  let afterWhole := s.drop whole
  match afterWhole with
  | '.' :: rest =>
    let fraction := digits Char.isDigit rest
    if whole = 0 && fraction = 0 then none
    else
      let taken := whole + 1 + fraction
      let taken := taken + exponent (s.drop taken)
      some (taken + imaginary (s.drop taken))
  | _ =>
    if whole = 0 then none
    else
      let power := exponent afterWhole
      let taken := whole + power
      if power = 0 then some (taken + oneOf ['l', 'L', 'j', 'J'] (s.drop taken))
      else some (taken + imaginary (s.drop taken))

def number? (s : List Char) : Option Nat :=
  let based := match s with
    | '0' :: 'x' :: rest | '0' :: 'X' :: rest => based? isHex rest
    | '0' :: 'o' :: rest | '0' :: 'O' :: rest => based? (fun c => '0' ≤ c && c ≤ '7') rest
    | '0' :: 'b' :: rest | '0' :: 'B' :: rest => based? (fun c => c == '0' || c == '1') rest
    | _ => none
  match based with
  | some n => some n
  | none => decimal? s

def word? : List Char → Option (List Char)
  | [] => none
  | c :: rest =>
    if Text.startsIdentifier c then some (c :: rest.takeWhile Text.continuesIdentifier) else none

private def code? (n : Nat) (s : List Char) : Option Nat :=
  let found := (s.take n).takeWhile isHex
  if found.length = n then some (2 + n) else none

/-- The length of the escape at the start of the text, its backslash included. -/
def escape? : List Char → Option Nat
  | '\\' :: '\r' :: '\n' :: _ => some 3
  | '\\' :: 'u' :: rest => code? 4 rest
  | '\\' :: 'U' :: rest => code? 8 rest
  | '\\' :: 'x' :: rest => code? 2 rest
  | '\\' :: 'N' :: '\x7b' :: rest =>
    let name := rest.takeWhile (· != '\x7d')
    if name.isEmpty || name.length = rest.length then none else some (name.length + 4)
  | '\\' :: c :: rest =>
    if c.isDigit then some (1 + ((c :: rest).take 3 |>.takeWhile Char.isDigit).length)
    else if c = '\n' || "'\"abfrntv\\".toList.contains c then some 2
    else none
  | _ => none

def continuation? : List Char → Option Nat
  | '\\' :: '\r' :: '\n' :: _ => some 3
  | '\\' :: '\n' :: _ => some 2
  | '\\' :: '\x00' :: _ => some 2
  | _ => none

def layoutText (s : List Char) : Nat :=
  (s.takeWhile fun c => c != '\x7b' && c != '\x7d' && c != '\n').length

/-- The first mark, in the order of the marks, that may come next and is there. -/
def mark? (valid : TokenSet) (s : List Char) : Option String :=
  Token.marks.find? fun m => m.toList.isPrefixOf s && valid.has (.mark m)

/-- What a word is: itself if it may come next or is no name anywhere, else a name. -/
def ofWord? (valid : TokenSet) (text : String) : Option Token :=
  if Token.words.contains text && (valid.has (.word text) || Token.reservedWords.contains text) then
    some (.word text)
  else if valid.has .name then some .name
  else none

end Lexeme

inductive Finding where
  | token (lexeme : Lexeme)
  /-- A comment or a continued line, which may stand anywhere. -/
  | aside (comment : Bool) (start : Nat) (after : Cursor)
  deriving Repr

namespace Finding

open Lexeme

private def ofLength (t : Token) (c : Cursor) (length : Nat) : Finding :=
  .token ⟨t, c.offset, c.advance length⟩

private def conversion? : List Char → Option Nat
  | '!' :: d :: _ => if 'a' ≤ d ∧ d ≤ 'z' then some 2 else none
  | _ => none

private def numberOrMark? (valid : TokenSet) (c : Cursor) : Option Finding :=
  match if valid.has .conversion then conversion? c.rest else none with
  | some n => some (ofLength .conversion c n)
  | none =>
    match if valid.has .number then number? c.rest else none with
    | some n => some (ofLength .number c n)
    | none => (mark? valid c.rest).map fun m => ofLength (.mark m) c m.length

private def here? (valid : TokenSet) (immediate : Bool) (c : Cursor) : Option Finding :=
  match c.rest with
  | [] => if valid.has .finish then some (ofLength .finish c 0) else none
  | d :: _ =>
    match continuation? c.rest with
    | some n => some (.aside false c.offset (c.advance n))
    | none =>
      let layout := if valid.has .layout then layoutText c.rest else 0
      if 0 < layout then some (ofLength .layout c layout)
      else if d = '\\' then
        if immediate && valid.has .backslash then some (ofLength .backslash c 1) else none
      else if d = '#' then
        some (.aside true c.offset (c.advance (c.rest.takeWhile (· != '\n')).length))
      else
        match word? c.rest with
        | some w => (ofWord? valid (String.ofList w)).map fun t => ofLength t c w.length
        | none => numberOrMark? valid c

def find? (valid : TokenSet) (c : Cursor) : Option Finding :=
  match if valid.has .escape then escape? c.rest else none with
  | some n => some (ofLength .escape c n)
  | none =>
    let start := c.skipWhile isGap
    here? valid (start.offset = c.offset) start

end Finding

end PathAudit.ModuleCode
