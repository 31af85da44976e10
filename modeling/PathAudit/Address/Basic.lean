import PathAudit.Address.Domain
import PathAudit.Address.Ip
import PathAudit.Address.Path
import PathAudit.Number.Decimal

/-! Absolute addresses: scheme, host, port, path, query and fragment, read by the rules that
browsers use, and the text an address is shown as. -/
namespace PathAudit

/-- Who asks, where, and on which port; all but the port as shown. -/
structure Authority where
  user : String := ""
  password : Option String := none
  host : String := ""
  port : Option Nat := none
  deriving DecidableEq, Repr, Inhabited

structure Address where
  scheme : String
  authority : Option Authority
  path : String
  query : Option String := none
  fragment : Option String := none
  deriving DecidableEq, Repr, Inhabited

namespace Authority

def text (a : Authority) : String :=
  let password := (a.password.map (":" ++ ·)).getD ""
  let who := a.user ++ password
  (if who.isEmpty then "" else who ++ "@") ++ a.host ++
    (a.port.map fun port => ":" ++ decimal port).getD ""

def withoutUser (a : Authority) : Authority :=
  let password := a.password.bind fun p => Escape.meant? p.toList
  match Escape.meant? a.user.toList with
  | none => a
  | some user =>
    if user.isEmpty && password.isNone then a else { a with user := "", password := none }

end Authority

namespace Address

/-- The text of an address. Without a host a path does not start with two slashes. -/
def shown (a : Address) : String :=
  let before := match a.authority with
    | some authority => "//" ++ authority.text
    | none => if startsWith "//" a.path then "/." else ""
  a.scheme ++ ":" ++ before ++ a.path ++ (a.query.map ("?" ++ ·)).getD "" ++
    (a.fragment.map ("#" ++ ·)).getD ""

def host? (a : Address) : Option String :=
  (a.authority.map (·.host)).filter (!·.isEmpty)

def withoutUser (a : Address) : Address := { a with authority := a.authority.map (·.withoutUser) }

/-- What a scheme says about its addresses. -/
inductive Manner where
  | hosted (port : Nat)
  | file
  | free
  deriving DecidableEq, Repr

def Manner.ofScheme : String → Manner
  | "http" | "ws" => .hosted 80
  | "https" | "wss" => .hosted 443
  | "ftp" => .hosted 21
  | "file" => .file
  | _ => .free

namespace Manner

def isSpecial (m : Manner) : Bool := m != .free

def usualPort? : Manner → Option Nat
  | .hosted port => some port
  | _ => none

end Manner

private def isTailMark (c : Char) : Bool := c == '?' || c == '#'

private def isSlash (c : Char) : Bool := c == '/' || c == '\\'

private def withTail (m : Manner) (a : Address) (tail : List Char) : Address :=
  let inQuery := if m.isSpecial then Escape.inHostedQuery else Escape.inQuery
  let fragmentOf (s : List Char) : Option String := match s with
    | '#' :: fragment => some (String.ofList (Escape.escaped Escape.inFragment fragment))
    | _ => none
  match tail with
  | '?' :: rest =>
    let query := rest.takeWhile (· != '#')
    { a with
      query := some (String.ofList (Escape.escaped inQuery query))
      fragment := fragmentOf (rest.dropWhile (· != '#')) }
  | tail => { a with fragment := fragmentOf tail }

private def bracketed? (s : List Char) : Option (List Char) := do
  match s.reverse with
  | ']' :: inner => some (['['] ++ Ip.eightText (← Ip.eight? inner.reverse) ++ [']'])
  | _ => none

/-- The host of an address that always has one: a name, or a number where its last part is one. -/
private def hostedHost? (s : List Char) : Option (List Char) := do
  match s with
  | '[' :: rest => bracketed? rest
  | s =>
    let name ← Domain.written? (← Escape.meant? s)
    if name.isEmpty then none else if Ip.endsInNumber name then Ip.four? name else some name

private def isForbiddenInHost (c : Char) : Bool :=
  ['\x00', '\t', '\n', '\r', ' ', '#', '/', ':', '<', '>', '?', '@', '[', '\\', ']', '^',
    '|'].contains c

private def freeHost? (s : List Char) : Option (List Char) :=
  match s with
  | '[' :: rest => bracketed? rest
  | s => if s.any isForbiddenInHost then none else some (Escape.escaped Escape.nowhere s)

private def hostText : Bool → List Char → List Char
  | _, [] => []
  | inside, c :: rest =>
    if c == ':' && !inside then []
    else c :: hostText (if c == '[' then true else if c == ']' then false else inside) rest

/-- User and password before the last `@`; only the first colon parts them. -/
private def userOf (s : List Char) : String × Option String :=
  let shown (s : List Char) : String := String.ofList (Escape.escaped Escape.inUser s)
  let password := (s.dropWhile (· != ':')).drop 1
  (shown (s.takeWhile (· != ':')), if password.isEmpty then none else some (shown password))

/-- The port; `none` inside where the scheme implies it or no digit is given. -/
private def port? (usual : Option Nat) (digits : List Char) : Option (Option Nat) :=
  let port := Decimal.digitsValue digits
  if !digits.all Char.isDigit || port > 65535 then none
  else some (if digits.isEmpty || usual = some port then none else some port)

private def withAuthority (scheme : String) (m : Manner) (s : List Char) : Option Address := do
  let ends (c : Char) : Bool := c == '/' || isTailMark c || (m.isSpecial && c == '\\')
  let front := s.takeWhile (!ends ·)
  let place := (Text.afterLast ['@'] front).getD front
  let (user, password) := userOf (front.take (front.length - place.length - 1))
  let named := hostText false place
  let host ← if m.isSpecial then hostedHost? named else freeHost? named
  let rest := place.drop named.length
  let digits := (rest.drop 1).takeWhile (· != '\\')
  let port ← if rest.isEmpty then some none else port? m.usualPort? digits
  let isAsked := front = '@' :: place || !user.isEmpty || password.isSome
  if host.isEmpty && (!rest.isEmpty || isAsked) then none
  else
    let authority : Authority := ⟨user, password, String.ofList host, port⟩
    let text := rest.drop (digits.length + 1) ++ s.drop front.length
    let path := text.takeWhile (!isTailMark ·)
    let read (start text : List Char) : List Char :=
      (AddressPath.read false m.isSpecial start text).path false
    let shownPath := match path with
      | [] => if m.isSpecial then ['/'] else []
      | c :: more =>
        if c == '/' || (m.isSpecial && c == '\\') then read ['/'] more else read ['/'] path
    some (withTail m { scheme, authority := some authority, path := String.ofList shownPath }
      (text.drop path.length))

private def ofFile (s : List Char) : Option Address := do
  let made (host start text : List Char) : Address :=
    let path := text.takeWhile (!isTailMark ·)
    let r := AddressPath.read true true start path
    let authority : Authority := { host := if r.sawDrive then "" else String.ofList host }
    let shownPath := String.ofList (r.path true)
    withTail .file { scheme := "file", authority := some authority, path := shownPath }
      (text.drop path.length)
  match s with
  | a :: b :: rest =>
    if isSlash a && isSlash b then
      let named := rest.takeWhile fun c => !isSlash c && !isTailMark c
      if named.isEmpty || AddressPath.isDrive named then some (made [] ['/'] rest)
      else
        let host ← hostedHost? named
        let rest := rest.drop named.length
        if host = "localhost".toList then some (made [] ['/'] rest)
        else
          let path := match rest with
            | c :: more => if isSlash c then more else rest
            | [] => []
          some (made host ['/'] path)
    else some (made [] (if isSlash a then [] else ['/']) s)
  | [a] => some (made [] (if isSlash a then [] else ['/']) s)
  | [] => some (made [] ['/'] [])

private def ofPath (scheme : String) (s : List Char) : Address :=
  let path := s.takeWhile (!isTailMark ·)
  let shownPath := match path with
    | '/' :: rest => (AddressPath.read false false ['/'] rest).path false
    | path => Escape.escaped Escape.nowhere path
  withTail .free { scheme, authority := none, path := String.ofList shownPath }
    (s.drop path.length)

private def isSchemeChar (c : Char) : Bool := c.isAlphanum || c == '+' || c == '-' || c == '.'

/-- The address written in the text; `none` when it has no scheme, or a host or port that cannot
be. -/
def ofText? (text : String) : Option Address :=
  let isEdge (c : Char) : Bool := c.toNat ≤ 0x20
  let s := (Text.stripWhile isEdge text.toList).filter fun c => c != '\t' && c != '\n' && c != '\r'
  let name := s.takeWhile isSchemeChar
  match name.head?.any Char.isAlpha, s.drop name.length with
  | true, ':' :: rest =>
    let scheme := String.ofList (Text.lower name)
    let m := Manner.ofScheme scheme
    match m, rest with
    | .hosted _, rest => withAuthority scheme m (rest.dropWhile isSlash)
    | .file, rest => ofFile rest
    | .free, '/' :: '/' :: rest => withAuthority scheme m rest
    | .free, rest => some (ofPath scheme rest)
  | _, _ => none

/-- Whether a request can go there: the host has no character that the line of a request refuses,
and the address is not too long. -/
def isRequestable (a : Address) : Bool :=
  (a.scheme == "http" || a.scheme == "https") &&
    !(a.host?.getD "").toList.any (['"', '`', '\x7b', '\x7d'].contains ·) &&
    byteSize a.shown ≤ 65534

end Address

end PathAudit
