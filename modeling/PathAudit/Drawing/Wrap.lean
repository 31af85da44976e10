import PathAudit.Text.Basic

/-! Breaking of long lines at single blanks. -/
namespace PathAudit.Text

/-- Fills lines with words, a line being closed when the next word would make it longer than
`width`; an empty line swallows the blank before a word. -/
def fillLines (width : Nat) : List Char → List (List Char) → List (List Char)
  | current, [] => if current.isEmpty then [] else [current]
  | current, word :: words =>
    if current.isEmpty then fillLines width word words
    else if current.length + 1 + word.length > width then current :: fillLines width word words
    else fillLines width (current ++ ' ' :: word) words

/-- The line itself if it fits, else lines of whole words. -/
def wrap (width : Nat) (line : List Char) : List (List Char) :=
  if line.length ≤ width then [line] else fillLines width [] (splitOn ' ' line)

end PathAudit.Text
