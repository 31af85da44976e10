import PathAudit.Address.DomainMapping
import PathAudit.Address.Punycode
import PathAudit.Text.Composition
import PathAudit.Text.Direction
import PathAudit.Text.Joining

/-! Names of hosts. A name of any characters is brought to its usual form, and its parts that are
not plain are written with letters, digits and hyphens after the mark `xn--`. -/
namespace PathAudit.Domain

/-- The usual form of a text: each character becomes what it stands for, and all are composed. -/
def usual? (s : List Char) : Option (List Char) := do
  Text.composed (← s.mapM mapChar).flatten

private def isSeparator (c : Char) : Bool :=
  c.toNat ≤ 0x20 || c.toNat == 0x7F ||
    ['#', '%', '/', ':', '<', '>', '?', '@', '[', '\\', ']', '^', '|'].contains c

private def nonJoiner : Char := Char.ofNat 0x200C

private def joiner : Char := Char.ofNat 0x200D

/-- Whether the characters without width stand where they are seen: after a mark that takes a
vowel, or, where they keep letters apart, between letters that would join. -/
private def joinersFit : List Char → List Char → Bool
  | _, [] => true
  | before, c :: rest =>
    let afterVirama := before.head?.any Text.isVirama
    let apart :=
      (before.dropWhile Text.isPassedOver).head?.any Text.canJoinNext &&
        (rest.dropWhile Text.isPassedOver).head?.any Text.canJoinPrevious
    let fits := if c = joiner then afterVirama else if c = nonJoiner then afterVirama || apart
      else true
    fits && joinersFit (c :: before) rest

private def isSound (label : List Char) : Bool :=
  !label.head?.any Text.isMark && joinersFit [] label

private def ending (directions : List Text.Direction) : Option Text.Direction :=
  (directions.reverse.dropWhile (· = .mark)).head?

def keepsDirection (label : List Char) : Bool :=
  let directions := label.map Text.Direction.ofChar
  match directions.head? with
  | none => true
  | some .right =>
    directions.all ([.right, .arabicNumber, .europeanNumber, .neutral, .mark].contains ·) &&
      (ending directions).any ([.right, .arabicNumber, .europeanNumber].contains ·) &&
      !(directions.contains .arabicNumber && directions.contains .europeanNumber)
  | some .left =>
    directions.all ([.left, .europeanNumber, .neutral, .mark].contains ·) &&
      (ending directions).any ([.left, .europeanNumber].contains ·)
  | some _ => false

private def turns (label : List Char) : Bool :=
  label.any fun c => !Punycode.isPlain c &&
    [.right, .arabicNumber].contains (Text.Direction.ofChar c)

def mark : List Char := "xn--".toList

/-- The most characters of a part that is written otherwise, and of what it is written as. -/
def longestPart : Nat := 1000
def longestWritten : Nat := 2000

private def unwritten? (written : List Char) : Option (List Char) := do
  if written.length > longestWritten then none
  else
    let label ← Punycode.decode? written
    if label.all Punycode.isPlain || usual? label ≠ some label || !isSound label then none
    else some label

private def part? (label : List Char) : Option (List Char × List Char) :=
  if label.any isSeparator then none
  else if mark.isPrefixOf label then
    (unwritten? (label.drop mark.length)).map fun text => (text, label)
  else if label.all Punycode.isPlain then some (label, label)
  else if label.length > longestPart || !isSound label then none
  else some (label, mark ++ Punycode.encode label)

/-- The name as it is written; `none` where the text is no name. -/
def written? (s : List Char) : Option (List Char) := do
  let parts ← (Text.splitOn '.' (← usual? s)).mapM part?
  if (parts.any fun (text, _) => turns text) && !(parts.all fun (text, _) => keepsDirection text)
  then none
  else some (Text.join ['.'] (parts.map (·.2)))

end PathAudit.Domain
