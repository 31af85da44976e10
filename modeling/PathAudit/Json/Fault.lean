import PathAudit.Json.Value
import PathAudit.Text.Quoted

/-! What can be wrong with a JSON text or with the shape of a value, and the wording of each. -/
namespace PathAudit

inductive JsonFault where
  | eofValue
  | eofList
  | eofObject
  | eofString
  | expectedValue
  | expectedIdent
  | expectedColon
  | expectedListEnd
  | expectedObjectEnd
  | trailingComma
  | trailingCharacters
  | keyNotString
  | invalidNumber
  | numberOutOfRange
  | invalidEscape
  | endOfHexEscape
  | loneSurrogate
  | controlCharacter
  | tooDeep
  deriving DecidableEq, Repr, Inhabited

/-- The wording of a fault, without the line and the column that a report puts behind it: where in
the text a reading stops is not kept. -/
def JsonFault.message : JsonFault → String
  | .eofValue => "EOF while parsing a value"
  | .eofList => "EOF while parsing a list"
  | .eofObject => "EOF while parsing an object"
  | .eofString => "EOF while parsing a string"
  | .expectedValue => "expected value"
  | .expectedIdent => "expected ident"
  | .expectedColon => "expected `:`"
  | .expectedListEnd => "expected `,` or `]`"
  | .expectedObjectEnd => "expected `,` or `\x7d`"
  | .trailingComma => "trailing comma"
  | .trailingCharacters => "trailing characters"
  | .keyNotString => "key must be a string"
  | .invalidNumber => "invalid number"
  | .numberOutOfRange => "number out of range"
  | .invalidEscape => "invalid escape"
  | .endOfHexEscape => "unexpected end of hex escape"
  | .loneSurrogate => "lone leading surrogate in hex escape"
  | .controlCharacter => "control character (\\u0000-\\u001F) found while parsing a string"
  | .tooDeep => "recursion limit exceeded"

/-- What stood where another kind of value was wanted. -/
inductive JsonKind where
  | null
  | bool (value : Bool)
  | number (value : JsonNumber)
  | string (value : String)
  | sequence
  | map
  deriving Repr, Inhabited

def JsonKind.describe : JsonKind → String
  | .null => "null"
  | .bool true => "boolean `true`"
  | .bool false => "boolean `false`"
  | .number (.int i) => "integer `" ++ String.ofList (Decimal.ofInt i) ++ "`"
  | .number (.float x) => "floating point `" ++ String.ofList (Decimal.ofDouble x) ++ "`"
  | .string s => "string " ++ quoted s
  | .sequence => "sequence"
  | .map => "map"

/-- Why a document gives no value of the wanted shape. -/
inductive DecodeError where
  | fault (fault : JsonFault)
  | missingField (name : String)
  | duplicateField (name : String)
  | unknownVariant (found : String) (allowed : List String)
  | invalidType (found : JsonKind) (wanted : String)
  | invalidValue (found : JsonKind) (wanted : String)
  | invalidLength (length : Nat) (wanted : String)
  deriving Repr, Inhabited

def alternatives (names : List String) : String :=
  let ticked (name : String) := "`" ++ name ++ "`"
  match names with
  | [] => "there are no variants"
  | [a] => "expected " ++ ticked a
  | [a, b] => "expected " ++ ticked a ++ " or " ++ ticked b
  | many => "expected one of " ++ String.intercalate ", " (many.map ticked)

def DecodeError.message : DecodeError → String
  | .fault f => f.message
  | .missingField name => "missing field `" ++ name ++ "`"
  | .duplicateField name => "duplicate field `" ++ name ++ "`"
  | .unknownVariant found allowed => "unknown variant `" ++ found ++ "`, " ++ alternatives allowed
  | .invalidType found wanted => "invalid type: " ++ found.describe ++ ", expected " ++ wanted
  | .invalidValue found wanted => "invalid value: " ++ found.describe ++ ", expected " ++ wanted
  | .invalidLength length wanted =>
    "invalid length " ++ decimal length ++ ", expected " ++ wanted

theorem bind_eq_ok {ε α β : Type} {first : Except ε α} {next : α → Except ε β} {result : β}
    (known : first >>= next = .ok result) :
    ∃ value, first = .ok value ∧ next value = .ok result := by
  cases first with
  | error fault => contradiction
  | ok value => exact ⟨value, rfl, known⟩

theorem mapError_ok {ε κ α : Type} (wrap : ε → κ) (value : α) :
    (Except.ok value).mapError wrap = .ok value := rfl

theorem mapError_eq_ok {ε κ α : Type} {wrap : ε → κ} {first : Except ε α} {result : α}
    (known : first.mapError wrap = .ok result) : first = .ok result := by
  cases first with
  | error fault => contradiction
  | ok value => exact congrArg Except.ok (Except.ok.inj known)

end PathAudit
