import PathAudit.Files

/-! The name that a database is opened under. A plain name is that of its file. A name that starts
with `file:` is an address: a percent sign and two hexadecimal digits stand for a byte, a question
mark starts the options, and what follows a number sign is left out. -/
namespace PathAudit

/-- How the file of a database is used, from the least to the most. -/
inductive Access where
  | readOnly
  | readWrite
  | create
  | memory
  deriving DecidableEq, Repr, Inhabited

namespace Access

def ofName? : String → Option Access
  | "ro" => some .readOnly
  | "rw" => some .readWrite
  | "rwc" => some .create
  | "memory" => some .memory
  | _ => none

def rank : Access → Nat
  | .readOnly => 0
  | .readWrite => 1
  | .create => 2
  | .memory => 3

/-- One access may be narrowed to another, but not widened; a database may always be kept nowhere.
-/
def allows (old new : Access) : Bool := new == .memory || new.rank ≤ old.rank

end Access

inductive OpenFault where
  | nulInName (position : Nat)
  | strangeHost (host : String)
  | unknownMode (kind value : String)
  | forbiddenMode (kind value : String)
  | unknownSystem (name : String)
  | unreachable (path : String)
  | notDatabase
  /-- A file that may not be written holds no database yet, or one without the tables. -/
  | unwritable (isEmpty : Bool)
  deriving DecidableEq, Repr, Inhabited

def OpenFault.message : OpenFault → String
  | .nulInName position => "nul byte found in provided data at position: " ++ decimal position
  | .strangeHost host => "invalid uri authority: " ++ host
  | .unknownMode kind value => "no such " ++ kind ++ " mode: " ++ value
  | .forbiddenMode kind value => kind ++ " mode not allowed: " ++ value
  | .unknownSystem name => "no such vfs: " ++ name
  | .unreachable path => "unable to open database file: " ++ path
  | .notDatabase => "file is not a database"
  | .unwritable _ => "attempt to write a readonly database"

structure Location where
  name : String
  access : Access := .create
  isImmutable : Bool := false
  isVirtual : Bool := false
  deriving DecidableEq, Repr, Inhabited

namespace Location

def isTransient (l : Location) : Bool :=
  l.name.isEmpty || l.name == ":memory:" || l.access == .memory || l.isVirtual

def isReadOnly (l : Location) : Bool := l.access == .readOnly || l.isImmutable

/-- The bytes of an escaped text, up to an escaped zero. -/
private def unescapedBytes : List Char → List UInt8
  | '%' :: a :: b :: rest =>
    match Utf8.hexDigit? a, Utf8.hexDigit? b with
    | some high, some low =>
      if high = 0 ∧ low = 0 then [] else (high * 16 + low).toUInt8 :: unescapedBytes rest
    | _, _ => Utf8.encodeChar '%' ++ unescapedBytes (a :: b :: rest)
  | c :: rest => Utf8.encodeChar c ++ unescapedBytes rest
  | [] => []

private def unescaped (s : List Char) : String :=
  String.ofList (Utf8.decodeLossy (unescapedBytes s))

private def splitAt (c : Char) (s : List Char) : List Char × List Char :=
  (s.takeWhile (· != c), (s.dropWhile (· != c)).drop 1)

/-- The options of an address; one without a name is left out. -/
private def options (s : List Char) : List (String × String) :=
  ((Text.splitOn '&' s).map fun option =>
    let (name, value) := splitAt '=' option
    (unescaped name, unescaped value)).filter (!·.1.isEmpty)

private structure Choices where
  access : Access := .create
  system : Option String := none

private def choose (c : Choices) (option : String × String) : Except OpenFault Choices :=
  match option with
  | ("vfs", value) => .ok { c with system := some value }
  | ("cache", value) =>
    if ["shared", "private"].contains value then .ok c else .error (.unknownMode "cache" value)
  | ("mode", value) =>
    match Access.ofName? value with
    | none => .error (.unknownMode "access" value)
    | some access =>
      if c.access.allows access then .ok { c with access }
      else .error (.forbiddenMode "access" value)
  | _ => .ok c

private def systems : List String := ["memdb", "unix", "unix-none", "unix-dotfile", "unix-excl"]

private def isOn (value : String) : Bool :=
  match value.toList.takeWhile Char.isDigit with
  | [] => ["on", "yes", "true"].contains (lowered value)
  | digits => Decimal.digitsValue digits % 256 != 0

private def ofAddress (s : List Char) : Except OpenFault Location := do
  let (shown, _) := splitAt '#' s
  let (name, query) := splitAt '?' shown
  let options := options query
  let chosen ← options.foldlM choose {}
  if let some system := chosen.system then
    if !systems.contains system then throw (.unknownSystem system)
  return {
    name := unescaped name
    access := chosen.access
    isImmutable := (options.lookup "immutable").any isOn
    isVirtual := chosen.system = systems.head? }

def ofName (path : String) : Except OpenFault Location :=
  let before := path.toList.takeWhile (· != Char.ofNat 0)
  if before.length < path.length then .error (.nulInName (Utf8.size before))
  else
    match afterHead? "file:" path with
    | none => .ok { name := path }
    | some address =>
      match afterHead? "//" address with
      | none => ofAddress address.toList
      | some rest =>
        let host := rest.toList.takeWhile (· != '/')
        if host.isEmpty || host = "localhost".toList then ofAddress (rest.toList.drop host.length)
        else .error (.strangeHost (String.ofList host))

end Location

end PathAudit
