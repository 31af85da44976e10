/-! The tokens a source is made of, and sets of them. The end of a line and the borders of blocks
are tokens too, and so are the pieces of a quoted text. -/
namespace PathAudit.ModuleCode

inductive Token where
  | finish
  | newline
  | indent
  | dedent
  | quoteStart
  | quoteText
  | quoteEnd
  /-- A brace written twice in a quoted text that holds expressions. -/
  | doubledBrace
  | escape
  | backslash
  | layout
  | conversion
  | name
  | number
  | word (text : String)
  | mark (text : String)
  deriving DecidableEq, Repr, Inhabited

namespace Token

def reservedWords : List String :=
  ["False", "None", "True", "and", "as", "assert", "async", "await", "break", "class", "continue",
    "def", "del", "elif", "else", "except", "finally", "for", "from", "global", "if", "import",
    "in", "is", "lambda", "nonlocal", "not", "or", "pass", "raise", "return", "try", "while",
    "with", "yield"]

/-- Words that are names where they mean nothing else. -/
def softWords : List String := ["_", "__future__", "case", "exec", "match", "print", "type"]

def words : List String := reservedWords ++ softWords

def marks : List String :=
  ["**=", "//=", ">>=", "<<=", "...", "->", ":=", "+=", "-=", "*=", "/=", "%=", "@=", "&=", "|=",
    "^=", "**", "//", "<<", ">>", "<=", ">=", "==", "!=", "<>", "(", ")", "[", "]", "\x7b", "\x7d",
    ",", ":", ";", ".", "=", "+", "-", "*", "/", "%", "@", "&", "|", "^", "~", "<", ">"]

def kinds : Nat := 14

def index : Token → Nat
  | .finish => 0
  | .newline => 1
  | .indent => 2
  | .dedent => 3
  | .quoteStart => 4
  | .quoteText => 5
  | .quoteEnd => 6
  | .doubledBrace => 7
  | .escape => 8
  | .backslash => 9
  | .layout => 10
  | .conversion => 11
  | .name => 12
  | .number => 13
  | .word text => kinds + words.idxOf text
  | .mark text => kinds + words.length + marks.idxOf text

end Token

/-- A set of tokens: the bits of a number, each at the place of its token. -/
abbrev TokenSet := Nat

namespace TokenSet

def single (t : Token) : TokenSet := 1 <<< t.index

def has (s : TokenSet) (t : Token) : Bool := s.testBit t.index

end TokenSet

end PathAudit.ModuleCode
