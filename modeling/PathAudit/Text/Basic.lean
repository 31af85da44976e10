import PathAudit.Text.Blank

/-! Cutting, searching and joining of texts. Everything is a function on lists of characters, so
that each operation is a plain recursion; the `String` forms below only wrap them. -/
namespace PathAudit.Text

/-- The pieces between the occurrences of `sep`; there is always at least one. -/
def splitOn (sep : Char) : List Char → List (List Char)
  | [] => [[]]
  | c :: rest =>
    if c = sep then [] :: splitOn sep rest
    else
      match splitOn sep rest with
      | [] => [[c]]
      | piece :: pieces => (c :: piece) :: pieces

theorem splitOn_ne_nil (sep : Char) (s : List Char) : splitOn sep s ≠ [] := by
  cases s with
  | nil => simp [splitOn]
  | cons c rest =>
    simp only [splitOn]
    split
    · simp
    · split <;> simp

def join (sep : List Char) : List (List Char) → List Char
  | [] => []
  | [piece] => piece
  | piece :: pieces => piece ++ sep ++ join sep pieces

theorem join_splitOn (sep : Char) (s : List Char) : join [sep] (splitOn sep s) = s := by
  induction s with
  | nil => rfl
  | cons c rest ih =>
    simp only [splitOn]
    split
    · next same =>
      subst same
      generalize pieces : splitOn c rest = cut at ih
      cases cut with
      | nil => exact absurd pieces (splitOn_ne_nil c rest)
      | cons piece more => simp [join, ih]
    · generalize pieces : splitOn sep rest = cut at ih
      cases cut with
      | nil => exact absurd pieces (splitOn_ne_nil sep rest)
      | cons piece more =>
        cases more with
        | nil => simpa [join] using ih
        | cons next more => simpa [join] using ih

/-- Drops one carriage return at the end of a line that a line feed closed. -/
def withoutReturn (line : List Char) : List Char :=
  match line.reverse with
  | '\r' :: rest => rest.reverse
  | _ => line

/-- The lines of a text: a line feed closes a line, a carriage return before it belongs to the
ending, and no empty line follows the last ending. -/
def lines (s : List Char) : List (List Char) :=
  let pieces := splitOn '\n' s
  let closed := pieces.dropLast.map withoutReturn
  match pieces.getLast? with
  | none | some [] => closed
  | some last => closed ++ [last]

def contains (pattern : List Char) : List Char → Bool
  | [] => pattern.isEmpty
  | c :: rest => pattern.isPrefixOf (c :: rest) || contains pattern rest

/-- The text after the first occurrence of `pattern`, with what stood before it. -/
def splitFirst (pattern : List Char) : List Char → Option (List Char × List Char)
  | [] => if pattern.isEmpty then some ([], []) else none
  | c :: rest =>
    match pattern.isPrefixOf? (c :: rest) with
    | some after => some ([], after)
    | none => (splitFirst pattern rest).map fun (before, after) => (c :: before, after)

def afterLast (pattern : List Char) : List Char → Option (List Char)
  | [] => if pattern.isEmpty then some [] else none
  | c :: rest =>
    match afterLast pattern rest with
    | some after => some after
    | none => pattern.isPrefixOf? (c :: rest)

def throughLast (c : Char) (s : List Char) : Option (List Char) :=
  match s.reverse.dropWhile (· != c) with
  | [] => none
  | kept => some kept.reverse

/-- Replaces the occurrences of the pattern `p :: ps`, found from left to right without overlap. -/
def replaceAll (p : Char) (ps new : List Char) (s : List Char) : List Char :=
  match s with
  | [] => []
  | c :: rest =>
    if (p :: ps).isPrefixOf (c :: rest) then new ++ replaceAll p ps new (rest.drop ps.length)
    else c :: replaceAll p ps new rest
termination_by s.length
decreasing_by
  · simp only [List.length_cons, List.length_drop]; omega
  · simp

def stripWhile (p : Char → Bool) (s : List Char) : List Char :=
  ((s.dropWhile p).reverse.dropWhile p).reverse

/-- Lower case of the letters A to Z; every other character stays. -/
def lower (s : List Char) : List Char := s.map Char.toLower

def padRight (width : Nat) (s : List Char) : List Char :=
  s ++ List.replicate (width - s.length) ' '

end PathAudit.Text

namespace PathAudit

def joined (sep : String) (pieces : List String) : String :=
  String.ofList (Text.join sep.toList (pieces.map String.toList))

def linesOf (s : String) : List String := (Text.lines s.toList).map String.ofList

def occursIn (pattern s : String) : Bool := Text.contains pattern.toList s.toList

/-- Replaces every occurrence of a non-empty pattern; an empty pattern changes nothing. -/
def substituted (pattern new s : String) : String :=
  match pattern.toList with
  | [] => s
  | p :: ps => String.ofList (Text.replaceAll p ps new.toList s.toList)

def afterHead? (head s : String) : Option String :=
  (head.toList.isPrefixOf? s.toList).map String.ofList

def startsWith (head s : String) : Bool := head.toList.isPrefixOf s.toList

def endsWith (tail s : String) : Bool := tail.toList.reverse.isPrefixOf s.toList.reverse

def lowered (s : String) : String := String.ofList (Text.lower s.toList)

end PathAudit
