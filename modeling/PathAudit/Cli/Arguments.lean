import PathAudit.Text.Basic

/-! The words of a command line. Two options may stand before or after the command, each of them
once on either side, and the one after it counts. -/
namespace PathAudit.Cli

inductive Command where
  | importRecords (file : String)
  | importIndex (file : String)
  | audit (key : Option String)
  | status
  | export (file : String)
  deriving DecidableEq, Repr, Inhabited

structure Arguments where
  settings : Option String
  database : Option String
  command : Command
  deriving DecidableEq, Repr, Inhabited

inductive Request where
  | run (arguments : Arguments)
  | version
  | help
  | misuse
  deriving DecidableEq, Repr, Inhabited

/-- The options given on one side of the command, and the words left over on that side. -/
structure Options where
  settings : Option String := none
  database : Option String := none
  key : Option String := none
  words : List String := []
  deriving Repr

inductive Stop where
  | version
  | help
  | misuse

def isOption (word : String) : Bool := startsWith "-" word && word != "-"

/-- A value that names a file is never empty. -/
private def fileValue (value : String) : Except Stop String :=
  if value.isEmpty then .error .misuse else .ok value

private def once (old : Option String) (value : String) : Except Stop (Option String) :=
  if old.isSome then .error .misuse else .ok (some value)

private def set (withKey : Bool) (name value : String) (o : Options) : Except Stop Options :=
  match name with
  | "--settings" => do .ok { o with settings := ← once o.settings (← fileValue value) }
  | "--db" => do .ok { o with database := ← once o.database (← fileValue value) }
  | "--key" => if withKey then do .ok { o with key := ← once o.key value } else .error .misuse
  | _ => .error .misuse

private def takesValue (withKey : Bool) (name : String) : Bool :=
  name == "--settings" || name == "--db" || (withKey && name == "--key")

private def splitValue (word : String) : String × Option String :=
  match Text.splitFirst ['='] word.toList with
  | some (name, value) => (String.ofList name, some (String.ofList value))
  | none => (word, none)

/-- What a word asks for by itself. Of letters after one hyphen the first decides. -/
private def stop? (withVersion : Bool) (word : String) : Option Stop :=
  match word.toList with
  | '-' :: 'h' :: _ => some .help
  | '-' :: 'V' :: _ => if withVersion then some .version else none
  | _ =>
    if word == "--help" then some .help
    else if withVersion && word == "--version" then some .version
    else none

/-- Reads the words before the command; gives the command's name and what follows it. -/
def readBefore : Options → List String → Except Stop (Options × String × List String)
  | _, [] => .error .misuse
  | o, word :: rest =>
    if let some stop := stop? true word then .error stop
    else if isOption word then
      match splitValue word with
      | (name, some value) =>
        match set false name value o with
        | .ok o => readBefore o rest
        | .error stop => .error stop
      | (name, none) =>
        if takesValue false name then
          match rest with
          | value :: rest =>
            if isOption value then .error .misuse
            else
              match set false name value o with
              | .ok o => readBefore o rest
              | .error stop => .error stop
          | [] => .error .misuse
        else .error .misuse
    else .ok (o, word, rest)

/-- Reads the words after the command. After two hyphens no word is an option. -/
def readAfter (withKey : Bool) : Options → List String → Except Stop Options
  | o, [] => .ok o
  | o, word :: rest =>
    if word == "--" then .ok { o with words := o.words ++ rest }
    else if let some stop := stop? false word then .error stop
    else if isOption word then
      match splitValue word with
      | (name, some value) =>
        match set withKey name value o with
        | .ok o => readAfter withKey o rest
        | .error stop => .error stop
      | (name, none) =>
        if takesValue withKey name then
          match rest with
          | value :: rest =>
            if isOption value then .error .misuse
            else
              match set withKey name value o with
              | .ok o => readAfter withKey o rest
              | .error stop => .error stop
          | [] => .error .misuse
        else .error .misuse
    else readAfter withKey { o with words := o.words ++ [word] } rest

private def oneFile (words : List String) (command : String → Command) : Except Stop Command :=
  match words with
  | [file] => do .ok (command (← fileValue file))
  | _ => .error .misuse

private def noWords (words : List String) (command : Command) : Except Stop Command :=
  if words.isEmpty then .ok command else .error .misuse

private def read (words : List String) : Except Stop Arguments := do
  let (before, name, rest) ← readBefore {} words
  let known := ["import-records", "import-index", "audit", "status", "export"]
  if name == "help" then
    match rest with
    | [] => .error .help
    | [topic] => if known.contains topic || topic == "help" then .error .help else .error .misuse
    | _ => .error .misuse
  else if !known.contains name then .error .misuse
  else
    let after ← readAfter (name == "audit") {} rest
    let command ← match name with
      | "import-records" => oneFile after.words .importRecords
      | "import-index" => oneFile after.words .importIndex
      | "audit" => noWords after.words (.audit after.key)
      | "status" => noWords after.words .status
      | _ => oneFile after.words .export
    .ok ⟨after.settings <|> before.settings, after.database <|> before.database, command⟩

def Request.ofWords (words : List String) : Request :=
  match read words with
  | .ok arguments => .run arguments
  | .error .version => .version
  | .error .help => .help
  | .error .misuse => .misuse

end PathAudit.Cli
