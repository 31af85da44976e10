import PathAudit.Json.Value

/-! Text of JSON values: a compact form without any blank, and an indented form with two blanks a
level. Members are written in the order of their list. Only the quote, the backslash and control
characters are escaped. -/
namespace PathAudit.Json

private def hex2 (n : Nat) : List Char :=
  match Nat.toDigits 16 n with
  | [d] => ['0', d]
  | ds => ds

def escapeChar (c : Char) : List Char :=
  if c = '"' then ['\\', '"']
  else if c = '\\' then ['\\', '\\']
  else if c.toNat < 32 then
    if c.toNat = 8 then ['\\', 'b']
    else if c = '\t' then ['\\', 't']
    else if c = '\n' then ['\\', 'n']
    else if c.toNat = 12 then ['\\', 'f']
    else if c = '\r' then ['\\', 'r']
    else ['\\', 'u', '0', '0'] ++ hex2 c.toNat
  else [c]

def quoteText (s : String) : List Char := '"' :: s.toList.flatMap escapeChar ++ ['"']

def numberText : JsonNumber → List Char
  | .int i => Decimal.ofInt i
  | .float x => Decimal.ofDouble x

mutual

def print : Json → List Char
  | .null => ['n', 'u', 'l', 'l']
  | .bool true => ['t', 'r', 'u', 'e']
  | .bool false => ['f', 'a', 'l', 's', 'e']
  | .number n => numberText n
  | .string s => quoteText s
  | .array [] => ['[', ']']
  | .array (item :: items) => '[' :: print item ++ printItems items ++ [']']
  | .object [] => ['\x7b', '\x7d']
  | .object ((key, value) :: members) =>
    '\x7b' :: quoteText key ++ ':' :: print value ++ printMembers members ++ ['\x7d']

def printItems : List Json → List Char
  | [] => []
  | item :: items => ',' :: print item ++ printItems items

def printMembers : List (String × Json) → List Char
  | [] => []
  | (key, value) :: members =>
    ',' :: quoteText key ++ ':' :: print value ++ printMembers members

end

def newline (level : Nat) : List Char := '\n' :: List.replicate (2 * level) ' '

mutual

def printIndented (level : Nat) : Json → List Char
  | .array (item :: items) =>
    '[' :: newline (level + 1) ++ printIndented (level + 1) item ++
      printIndentedItems (level + 1) items ++ newline level ++ [']']
  | .object ((key, value) :: members) =>
    '\x7b' :: newline (level + 1) ++ quoteText key ++ ':' :: ' ' ::
      printIndented (level + 1) value ++
      printIndentedMembers (level + 1) members ++ newline level ++ ['\x7d']
  | .array [] => ['[', ']']
  | .object [] => ['\x7b', '\x7d']
  | .null => print .null
  | .bool b => print (.bool b)
  | .number n => print (.number n)
  | .string s => print (.string s)

def printIndentedItems (level : Nat) : List Json → List Char
  | [] => []
  | item :: items =>
    ',' :: newline level ++ printIndented level item ++ printIndentedItems level items

def printIndentedMembers (level : Nat) : List (String × Json) → List Char
  | [] => []
  | (key, value) :: members =>
    ',' :: newline level ++ quoteText key ++ ':' :: ' ' :: printIndented level value ++
      printIndentedMembers level members

end

def compact (v : Json) : String := String.ofList v.print

def pretty (v : Json) : String := String.ofList (v.printIndented 0)

end PathAudit.Json
