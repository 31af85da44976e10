import PathAudit.Json.Printer
import PathAudit.Json.Raw
import PathAudit.Text.Basic

/-! Structured replies of a reasoner. The JSON in a reply may follow a line of thought, stand in a
fence or amid prose, and hold quotes that should have been escaped; all of that is taken off before
the text is read. -/
namespace PathAudit

inductive ReplyError where
  | noJson
  | invalid (reason : String)
  | missingFields
  deriving DecidableEq, Repr, Inhabited

def ReplyError.kind : ReplyError → String
  | .noJson => "no_json"
  | .invalid _ => "invalid"
  | .missingFields => "missing_fields"

def ReplyError.message : ReplyError → String
  | .noJson => "no JSON object found in response"
  | .invalid reason => "invalid JSON: " ++ reason
  | .missingFields => "response carries none of the expected fields"

namespace Reply

def afterThought (s : List Char) : List Char := (Text.afterLast "</think>".toList s).getD s

def fenceMark : List Char := "```".toList

/-- A fence may say which language it holds. -/
def withoutLanguage (s : List Char) : List Char :=
  (("json".toList.isPrefixOf? s) <|> ("JSON".toList.isPrefixOf? s)).getD s

def fenced? (s : List Char) : Option (List Char) := do
  let (_, opened) ← Text.splitFirst fenceMark s
  let (body, _) ← Text.splitFirst fenceMark (Text.trimStart (withoutLanguage opened))
  some (Text.trimEnd body)

/-- From the first opening brace through the last closing brace. -/
def outerObject? (s : List Char) : Option (List Char) :=
  match s.dropWhile (· != '\x7b') with
  | [] => none
  | opened => Text.throughLast '\x7d' opened

def candidate? (s : List Char) : Option (List Char) :=
  let s := afterThought s
  fenced? s <|> outerObject? s

/-- Puts a backslash before each quote that has none. -/
def escapeQuotes (escaped : Bool) : List Char → List Char
  | [] => []
  | c :: rest =>
    let next := c == '\\' && !escaped
    if c = '"' ∧ escaped = false then '\\' :: c :: escapeQuotes next rest
    else c :: escapeQuotes next rest

/-- A line holding one key and one text: what stands up to the text's opening quote, the text
between that quote and the last one of the line, and the rest. -/
structure KeyLine where
  head : List Char
  value : List Char
  tail : List Char
  deriving DecidableEq, Repr

namespace KeyLine

def isTail (s : List Char) : Bool :=
  match Text.trimStart s with
  | ',' :: rest => Text.allBlank rest
  | rest => rest.isEmpty

def splitLastQuote (s : List Char) : Option (List Char × List Char) :=
  match s.reverse.dropWhile (· != '"') with
  | [] => none
  | _ :: before => some (before.reverse, (s.reverse.takeWhile (· != '"')).reverse)

def ofLine? (line : List Char) : Option KeyLine := do
  let indent := line.takeWhile Text.isBlank
  let '"' :: quoted := line.dropWhile Text.isBlank | none
  let key := quoted.takeWhile (· != '"')
  let '"' :: afterKey := quoted.dropWhile (· != '"') | none
  if key.isEmpty then none
  let ':' :: afterColon := Text.trimStart afterKey | none
  let '"' :: opened := Text.trimStart afterColon | none
  let (value, tail) ← splitLastQuote opened
  if !isTail tail then none
  let head := indent ++ ['"'] ++ key ++ ['"'] ++ afterKey.takeWhile Text.isBlank ++ [':'] ++
    afterColon.takeWhile Text.isBlank
  some ⟨head, value, tail⟩

def repaired (k : KeyLine) : List Char :=
  k.head ++ ['"'] ++ escapeQuotes false k.value ++ ['"'] ++ k.tail

end KeyLine

def repairLine (line : List Char) : List Char :=
  match KeyLine.ofLine? line with
  | some k => if k.value.contains '"' then k.repaired else line
  | none => line

def repairQuotes (s : List Char) : List Char := Text.join ['\n'] ((Text.lines s).map repairLine)

/-- The JSON value in a reply. When it does not parse even with its quotes repaired, the error is
that of the text as it stands. -/
def value (text : String) : Except ReplyError Json :=
  match candidate? text.toList with
  | none => .error .noJson
  | some candidate =>
    match Json.parse (String.ofList candidate) with
    | .ok v => .ok v
    | .error fault =>
      (Json.parse (String.ofList (repairQuotes candidate))).mapError fun _ =>
        .invalid fault.message

def members (text : String) : Except ReplyError (List (String × Json)) := do
  match ← value text with
  | .object members => .ok members
  | other => .error (.invalid ("expected an object, got " ++ other.compact))

end Reply

namespace Json

def flag? : Json → Option Bool
  | .bool b => some b
  | .string s =>
    match lowered (trimmed s) with
    | "true" | "yes" => some true
    | "false" | "no" => some false
    | _ => none
  | _ => none

mutual

/-- The value as running text: texts as they are, the items of a list one below the other. -/
def plainText : Json → String
  | .null => ""
  | .string s => s
  | .array items => joined "\n" (plainTexts items)
  | other => other.compact

def plainTexts : List Json → List String
  | [] => []
  | item :: items => plainText item :: plainTexts items

end

end Json

end PathAudit
