import PathAudit.Text.Unprintable

/-! The quoted form of a text in messages: between double quotes, with the usual escapes and with
the code in braces for what would not show. -/
namespace PathAudit.Text

def quoteChar (c : Char) : List Char :=
  if c = '"' then ['\\', '"']
  else if c = '\\' then ['\\', '\\']
  else if c = '\n' then ['\\', 'n']
  else if c = '\r' then ['\\', 'r']
  else if c = '\t' then ['\\', 't']
  else if c.toNat = 0 then ['\\', '0']
  else if isUnprintable c then
    ['\\', 'u', '\x7b'] ++ Nat.toDigits 16 c.toNat ++ ['\x7d']
  else [c]

def quote (s : List Char) : List Char := '"' :: s.flatMap quoteChar ++ ['"']

end PathAudit.Text

namespace PathAudit

def quoted (s : String) : String := String.ofList (Text.quote s.toList)

end PathAudit
