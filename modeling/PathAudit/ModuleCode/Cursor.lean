import PathAudit.ModuleCode.Token

/-! Places in a source text. -/
namespace PathAudit.ModuleCode

/-- The text that is left, and how many characters came before it. -/
structure Cursor where
  rest : List Char
  offset : Nat
  deriving DecidableEq, Repr, Inhabited

namespace Cursor

/-- The start of a text. A byte order mark there does not count. -/
def ofText : List Char → Cursor
  | '\uFEFF' :: rest => ⟨rest, 1⟩
  | s => ⟨s, 0⟩

def advance : Nat → Cursor → Cursor
  | 0, c => c
  | _ + 1, ⟨[], offset⟩ => ⟨[], offset⟩
  | n + 1, ⟨_ :: rest, offset⟩ => advance n ⟨rest, offset + 1⟩

def skipWhile (p : Char → Bool) (c : Cursor) : Cursor := advance (c.rest.takeWhile p).length c

end Cursor

structure Lexeme where
  token : Token
  start : Nat
  after : Cursor
  deriving Repr

end PathAudit.ModuleCode
