import PathAudit.ModuleCode.Cursor

/-! The tokens that depend on what came before: the ends of lines, the borders of blocks, and the
pieces of quoted texts. They are looked for first, and only among the tokens that may come next; a
line that is indented less than its block ends the block even where the block may not end, unless a
bracket may be closed there. -/
namespace PathAudit.ModuleCode

structure Quote where
  mark : Char
  triple : Bool := false
  /-- Whether braces enclose expressions. -/
  format : Bool := false
  raw : Bool := false
  bytes : Bool := false
  deriving DecidableEq, Repr, Inhabited

/-- The blocks and quoted texts that are open, the innermost first. -/
structure Layout where
  indents : List Nat := []
  quotes : List Quote := []
  /-- Whether the quoted text opened last may hold expressions and has not been closed since. -/
  interpolating : Bool := false
  deriving DecidableEq, Repr, Inhabited

inductive TextPiece where
  | plain (length : Nat)
  /-- The closing mark, with what a raw text has before it. -/
  | closing (length : Nat)
  | other
  deriving DecidableEq, Repr

namespace Quote

private def plain (length : Nat) (some : Bool) : TextPiece := if some then .plain length else .other

/-- How many characters a backslash takes along in a raw text. -/
private def rawTail (mark : Char) (s : List Char) : Nat :=
  let quoted := match s with
    | c :: _ => if c = mark ∨ c = '\\' then 1 else 0
    | [] => 0
  let broken := match s.drop quoted with
    | '\r' :: '\n' :: _ => 2
    | '\r' :: _ => 1
    | '\n' :: _ => 1
    | _ => 0
  quoted + broken

/-- Reads a quoted text from its beginning or from the middle of a piece; `taken` characters have
been read, and `some` tells whether they make up a piece. Only a triply quoted text goes on over the
end of a line, except that any piece may start with one. -/
def piece (q : Quote) (taken : Nat) (some : Bool) : List Char → TextPiece
  | [] => .other
  | c :: rest =>
    if c = '\x00' then .other
    else if q.format && (c = '\x7b' || c = '\x7d') then plain taken some
    else if c = '\\' then
      if q.raw then
        let tail := rawTail q.mark rest
        piece q (taken + 1 + tail) some (rest.drop tail)
      else if q.bytes && (rest.head?.any fun d => d == 'N' || d == 'u' || d == 'U') then
        piece q (taken + min 3 (rest.length + 1)) true (rest.drop 2)
      else plain taken some
    else if c = q.mark then
      if !q.triple then
        if some then .plain taken else .closing (taken + 1)
      else if rest.take 2 = [q.mark, q.mark] then
        if some then .plain taken else .closing (taken + 3)
      else .plain (taken + if rest.head? = Option.some q.mark then 2 else 1)
    else if c = '\n' && some && !q.triple then .other
    else piece q (taken + 1) true rest
termination_by s => s.length

end Quote

/-- What lies between the place at hand and the next token, as far as lines are concerned. -/
structure Margin where
  broken : Bool := false
  indent : Nat := 0
  comment : Option Nat := none
  length : Nat := 0
  rest : List Char := []
  deriving DecidableEq, Repr

namespace Margin

private def past (m : Margin) (n : Nat) : Margin := { m with length := m.length + n }

/-- Reads the margin. Comments belong to it only where `comments` says so; a comment on the line at
hand, and a stray backslash, mean that there is none. -/
def read? (comments : Bool) (m : Margin) (inComment : Bool) : List Char → Option Margin
  | [] => some { m with broken := true, indent := 0, rest := [] }
  | '\\' :: '\r' :: '\n' :: rest =>
    read? comments ((if inComment then { m with indent := 0 } else m).past 3) false rest
  | '\\' :: '\n' :: rest =>
    read? comments ((if inComment then { m with indent := 0 } else m).past 2) false rest
  | c :: rest =>
    let m := m.past 1
    if inComment then
      if c = '\n' || c = '\x00' then read? comments { m with indent := 0 } false rest
      else read? comments m true rest
    else if c = '\n' then read? comments { m with broken := true, indent := 0 } false rest
    else if c = ' ' then read? comments { m with indent := m.indent + 1 } false rest
    else if c = '\t' then read? comments { m with indent := m.indent + 8 } false rest
    else if c = '\r' || c = '\x0c' then read? comments { m with indent := 0 } false rest
    else if c = '#' && comments then
      if m.broken then
        read? comments { m with comment := some (m.comment.getD m.indent) } true rest
      else none
    else if c = '\\' then
      if rest = [] || rest = ['\r'] then
        some { m with broken := true, indent := 0, rest := [] }
      else none
    else some { m with length := m.length - 1, rest := c :: rest }

end Margin

namespace Layout

def indent (l : Layout) : Nat := l.indents.headD 0

private def isFlag (c : Char) : Bool := "fFtTrRbBuU".toList.contains c

def isQuoteMark (c : Char) : Bool := c == '\'' || c == '"' || c == '`'

def openQuote? (s : List Char) : Option (Quote × Nat) :=
  let flags := s.takeWhile isFlag
  let has (choices : String) : Bool := flags.any choices.toList.contains
  match s.drop flags.length with
  | mark :: rest =>
    if isQuoteMark mark then
      let triple := mark != '`' && [mark, mark].isPrefixOf rest
      some (⟨mark, triple, has "fFtT", has "rR", has "bB"⟩,
        flags.length + (if triple then 3 else 1))
    else none
  | [] => none

private def quoted? (l : Layout) (q : Quote) (c : Cursor) : Option (Lexeme × Layout) :=
  match q.piece 0 false c.rest with
  | .plain n => some (⟨.quoteText, c.offset, c.advance n⟩, l)
  | .closing n =>
    some (⟨.quoteEnd, c.offset, c.advance n⟩,
      { l with quotes := l.quotes.drop 1, interpolating := false })
  | .other => none

private def startsWithBraces : List Char → Bool
  | '\x7b' :: '\x7b' :: _ => true
  | '\x7d' :: '\x7d' :: _ => true
  | _ => false

private def startsWithBrace (s : List Char) : Bool :=
  s.head?.any fun c => c == '\x7b' || c == '\x7d'

private def hasAny (valid : TokenSet) (tokens : List Token) : Bool := tokens.any valid.has

private def closingBrackets : List Token := [.mark "]", .mark ")", .mark "\x7d"]

/-- Whether a margin ends the innermost block. Comments that are indented like the block still
belong to it. -/
private def endsBlock (l : Layout) (valid : TokenSet) (m : Margin) : Bool :=
  let quoteNext := valid.has .quoteStart && m.rest.head?.any isQuoteMark
  let anywhere := !valid.has .newline && !quoteNext && !hasAny valid closingBrackets
  (valid.has .dedent || anywhere) && m.indent < l.indent && !l.interpolating &&
    m.comment.all (· < l.indent)

/-- The border that a margin is, if it is one. A border takes no characters. -/
private def border? (l : Layout) (valid : TokenSet) (c : Cursor) (m : Margin) :
    Option (Lexeme × Layout) :=
  if !m.broken then none
  else if valid.has .indent && l.indent < m.indent then
    some (⟨.indent, c.offset, c⟩, { l with indents := m.indent :: l.indents })
  else if l.endsBlock valid m then
    some (⟨.dedent, c.offset, c⟩, { l with indents := l.indents.drop 1 })
  else if valid.has .newline then some (⟨.newline, c.offset, c⟩, l)
  else none

private def opening? (l : Layout) (valid : TokenSet) (c : Cursor) (m : Margin) :
    Option (Lexeme × Layout) :=
  if m.comment.isSome || !valid.has .quoteStart then none
  else do
    let (quote, length) ← openQuote? m.rest
    let start : Cursor := ⟨m.rest, c.offset + m.length⟩
    return (⟨.quoteStart, start.offset, start.advance length⟩,
      { l with quotes := quote :: l.quotes, interpolating := quote.format })

private def betweenTokens? (l : Layout) (valid : TokenSet) (c : Cursor) :
    Option (Lexeme × Layout) :=
  let comments := hasAny valid [.indent, .dedent, .newline, .word "except"]
  (Margin.read? comments {} false c.rest).bind fun m =>
    (l.border? valid c m).or (l.opening? valid c m)

def find? (l : Layout) (valid : TokenSet) (c : Cursor) : Option (Lexeme × Layout) :=
  match l.quotes with
  | q :: _ =>
    if q.format && valid.has .doubledBrace && startsWithBrace c.rest then
      if startsWithBraces c.rest then some (⟨.doubledBrace, c.offset, c.advance 2⟩, l) else none
    else if valid.has .quoteText then l.quoted? q c
    else l.betweenTokens? valid c
  | [] => l.betweenTokens? valid c

end Layout

end PathAudit.ModuleCode
