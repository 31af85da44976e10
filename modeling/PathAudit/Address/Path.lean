import PathAudit.Address.Escape
import PathAudit.Text.Basic

/-! The path of an address: segments between slashes. A dot stands for the segment before it, two
dots take that segment away, and the letter of a drive at the start of a file's path stays. While it
is read, a path is held with its last character first. -/
namespace PathAudit.AddressPath

private def isSingleDot (segment : List Char) : Bool :=
  ([".", "%2e"].map String.toList).contains (Text.lower segment)

private def isDoubleDot (segment : List Char) : Bool :=
  (["..", ".%2e", "%2e.", "%2e%2e"].map String.toList).contains (Text.lower segment)

def isDrive : List Char → Bool
  | [letter, mark] => letter.isAlpha && (mark == ':' || mark == '|')
  | _ => false

/-- A path that is being read, its last character first, and whether a drive was seen. -/
structure Reading where
  backward : List Char
  sawDrive : Bool := false

namespace Reading

private def isOpen (path : List Char) : Bool := path.head? == some '/'

private def opened (path : List Char) : List Char := if isOpen path then path else '/' :: path

private def isBareDrive : List Char → Bool
  | [':', letter, _] => letter.isAlpha
  | _ => false

private def lastSegment (path : List Char) : List Char := (path.takeWhile (· != '/')).reverse

/-- Takes the last segment away, but neither the root nor a drive. -/
private def shortened : List Char → List Char
  | '/' :: inner =>
    if inner.contains '/' && !isDrive (lastSegment inner) then inner.dropWhile (· != '/')
    else '/' :: inner
  | path => path.dropWhile (· != '/')

/-- Puts a segment behind a path; what follows the drive of a file without a slash is set apart by
one. -/
private def appended (isFile : Bool) : List Char → List Char → List Char
  | path, [] => path
  | path, c :: rest =>
    let path := if isFile && isBareDrive path then '/' :: path else path
    appended isFile ((Escape.escaped Escape.inPath [c]).reverse ++ path) rest

private def readSegment (isFile isLast : Bool) (r : Reading) (segment : List Char) : Reading :=
  let closed (path : List Char) : List Char := if isLast then path else '/' :: path
  let written := Escape.escaped Escape.inPath segment
  let isApart := isFile && isDrive (segment.take 2) && r.backward.length = 1 && segment.length > 2
  if isDoubleDot written then
    let path := shortened r.backward
    { r with backward := if isLast then path else opened path }
  else if isSingleDot written then { r with backward := opened r.backward }
  else if isFile && isDrive written then
    { backward := closed (':' :: written.take 1 ++ r.backward), sawDrive := true }
  else if isApart then { r with backward := closed (appended isFile r.backward segment) }
  else { r with backward := closed (written.reverse ++ r.backward) }

private def readSegments (isFile : Bool) : Reading → List (List Char) → Reading
  | r, [] => r
  | r, [last] => readSegment isFile true r last
  | r, segment :: rest => readSegments isFile (readSegment isFile false r segment) rest

def path (isFile : Bool) (r : Reading) : List Char :=
  let path := r.backward.reverse
  if isFile then '/' :: path.dropWhile (· = '/') else path

end Reading

/-- Reads the text of a path behind what is there of it. In hosted addresses a backslash is a
slash. -/
def read (isFile isHosted : Bool) (start text : List Char) : Reading :=
  let text := if isHosted then text.map fun c => if c = '\\' then '/' else c else text
  Reading.readSegments isFile ⟨start.reverse, false⟩ (Text.splitOn '/' text)

end PathAudit.AddressPath
