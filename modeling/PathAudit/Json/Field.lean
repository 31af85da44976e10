import PathAudit.Json.Value

/-! Fields of an object that may be left out. A field that is missing, holds `null` or holds a
value of another kind counts as not given. -/
namespace PathAudit.Json

def field? (j : Json) (key : String) : Option Json := (j.get? key).filter (!·.isNull)

def valueAt (j : Json) (key : String) : Json := (j.get? key).getD .null

def str?At (j : Json) (key : String) : Option String := (j.get? key).bind asString?

def strAt (j : Json) (key : String) : String := (j.str?At key).getD ""

def listAt (j : Json) (key : String) : List Json := ((j.get? key).bind asArray?).getD []

def strsAt (j : Json) (key : String) : List String := (j.listAt key).filterMap asString?

def nat?At (j : Json) (key : String) : Option Nat := (j.get? key).bind asNat?

def natAt (j : Json) (key : String) (fallback : Nat) : Nat := (j.nat?At key).getD fallback

def double?At (j : Json) (key : String) : Option Double := (j.get? key).bind asDouble?

def boolAt (j : Json) (key : String) (fallback : Bool) : Bool :=
  ((j.get? key).bind asBool?).getD fallback

def membersAt (j : Json) (key : String) : List (String × Json) :=
  ((j.get? key).bind asObject?).getD []

end PathAudit.Json
