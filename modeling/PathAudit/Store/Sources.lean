import PathAudit.Files
import PathAudit.Graph.Resolver
import PathAudit.ModuleCode.Reduce
import PathAudit.Store.Basic

/-! The index of the analysed code: where each function is defined and what it calls. A function's
body is kept in the index itself or read from the lines of its module; the code of a module is
reduced to what runs when the module is loaded. -/
namespace PathAudit

structure FunctionEntry where
  name : String
  modulePath : Option String := none
  /-- The first line of the definition, counted from 1. -/
  startLine : Option Int := none
  totalLines : Option Int := none
  /-- Counts before the place in the module. -/
  body : Option String := none
  deriving DecidableEq, Repr, Inhabited

structure CallEntry where
  caller : String
  callee : String
  deriving DecidableEq, Repr, Inhabited

structure SourceListing where
  functions : List FunctionEntry := []
  calls : List CallEntry := []
  deriving DecidableEq, Repr, Inhabited

namespace FunctionEntry

private def fill : Decoder.Fill (Option String × FunctionEntry) := fun origin name raw (found, e) =>
  match name with
  | "name" => do .ok (some (← Decoder.text origin raw), e)
  | "module_path" => do .ok (found, { e with modulePath := ← Decoder.path.option origin raw })
  | "start_line" => do .ok (found, { e with startLine := ← Decoder.i64.option origin raw })
  | "total_lines" => do .ok (found, { e with totalLines := ← Decoder.i64.option origin raw })
  | _ => do .ok (found, { e with body := ← Decoder.text.option origin raw })

def decoder : Decoder FunctionEntry :=
  Decoder.fields "struct FunctionEntry"
    [⟨"name", [], false⟩, ⟨"module_path", [], true⟩, ⟨"start_line", [], true⟩,
      ⟨"total_lines", [], true⟩, ⟨"body", [], true⟩] (none, { name := "" }) fill
    fun (found, e) => do .ok { e with name := ← Decoder.require "name" found }

private def optionCell {α : Type} (cell : α → Cell) (value : Option α) : Cell :=
  (value.map cell).getD .null

def row (e : FunctionEntry) : FunctionRow :=
  ⟨.text e.name, optionCell .text e.modulePath, optionCell .int e.startLine,
    optionCell .int e.totalLines, optionCell .text e.body⟩

end FunctionEntry

namespace CallEntry

private def fill : Decoder.Fill (Option String × Option String) :=
  fun origin name raw (caller, callee) =>
  match name with
  | "caller" => do .ok (some (← Decoder.text origin raw), callee)
  | _ => do .ok (caller, some (← Decoder.text origin raw))

def decoder : Decoder CallEntry :=
  Decoder.fields "struct CallEntry" [⟨"caller", [], false⟩, ⟨"callee", [], false⟩] (none, none) fill
    fun (caller, callee) => do
      .ok ⟨← Decoder.require "caller" caller, ← Decoder.require "callee" callee⟩

end CallEntry

namespace SourceListing

private def fill : Decoder.Fill SourceListing := fun origin name raw listing =>
  match name with
  | "functions" => do
    .ok { listing with functions := ← Decoder.list FunctionEntry.decoder origin raw }
  | _ => do .ok { listing with calls := ← Decoder.list CallEntry.decoder origin raw }

def decoder : Decoder SourceListing :=
  Decoder.fields "struct IndexFile" [⟨"functions", [], true⟩, ⟨"calls", [], true⟩] {} fill .ok

end SourceListing

namespace Store

/-- Puts a row in the place of the one with the same key, or at the end. -/
def upsert {ρ : Type} (key : ρ → Cell) (row : ρ) : List ρ → List ρ
  | [] => [row]
  | r :: rest => if (key r).equals (key row) then row :: rest else r :: upsert key row rest

def upsertFunction (s : Store) (e : FunctionEntry) : Store :=
  { s with functions := upsert (·.name) e.row s.functions }

def hasCall (s : Store) (row : CallRow) : Bool :=
  s.calls.any fun r => r.caller.equals row.caller && r.callee.equals row.callee

def insertFunction (s : Store) (row : FunctionRow) : Except StoreError Store :=
  if s.functions.any fun r => r.name.equals row.name then .error (.unique "functions.name")
  else .ok { s with functions := s.functions ++ [row] }

def insertCall (s : Store) (row : CallRow) : Except StoreError Store := do
  requireAll "calls" [("caller", row.caller), ("callee", row.callee)]
  if s.hasCall row then .error (.unique "calls.caller, calls.callee")
  else .ok { s with calls := s.calls ++ [row] }

/-- Adds a call; one that is known stays where it is. -/
def addCall (s : Store) (caller callee : String) : Store :=
  let row : CallRow := ⟨.text caller, .text callee⟩
  if s.hasCall row then s else { s with calls := s.calls ++ [row] }

def importListing (s : Store) (listing : SourceListing) : Store :=
  let s := listing.functions.foldl upsertFunction s
  listing.calls.foldl (fun s call => s.addCall call.caller call.callee) s

def importSources (s : Store) (files : Files) (path : String) :
    Except StoreError (Store × Nat × Nat) := do
  let text ← (files.readText path).mapError fun fault =>
    .io ("read " ++ path ++ ": " ++ fault.message)
  let listing ← (SourceListing.decoder.ofText text).mapError fun e => .serialization e.message
  return (s.importListing listing, listing.functions.length, listing.calls.length)

private def readFunction (row : FunctionRow) : Except Cell.ColumnFault FunctionEntry := do
  return {
    name := ← row.name.readText 0 "name"
    modulePath := ← row.modulePath.readOption Cell.readText 1 "module_path"
    startLine := ← row.startLine.readOption Cell.readInt 2 "start_line"
    totalLines := ← row.totalLines.readOption Cell.readInt 3 "total_lines"
    body := ← row.body.readOption Cell.readText 4 "body" }

def function? (s : Store) (name : String) : Except StoreError (Option FunctionEntry) :=
  match s.functions.find? fun row => row.name.equals (.text name) with
  | none => .ok none
  | some row => ((readFunction row).mapError .ofColumn).map some

def calleesOf (s : Store) (caller : String) : Except StoreError (List FunctionId) :=
  (s.calls.filter fun row => row.caller.equals (.text caller)).mapM fun row =>
    (row.callee.readText 0 "callee").mapError (.corrupt "calls")

end Store

/-- The lines from `start` on, `total` of them, joined by line feeds; `none` unless the text has
them all. -/
def sourceLines? (text : String) (start total : Int) : Option String :=
  let lines := linesOf text
  if 1 ≤ start ∧ 1 ≤ total ∧ start - 1 + total ≤ lines.length then
    some (joined "\n" ((lines.drop (start - 1).toNat).take total.toNat))
  else none

namespace FunctionEntry

def written? (e : FunctionEntry) (files : Files) : Option String :=
  match e.body, e.modulePath, e.startLine, e.totalLines with
  | some body, _, _, _ => some body
  | none, some path, some start, some total =>
    (files.readText path).toOption.bind fun text => sourceLines? text start total
  | _, _, _, _ => none

end FunctionEntry

namespace Store

def written (s : Store) (files : Files) (f : FunctionId) : Except ResolveError String := do
  let entry ← (s.function? f).mapError fun e => .backend e.message
  match entry.bind (·.written? files) with
  | some body => .ok body
  | none => .error (.notFound f)

def resolver (s : Store) (files : Files) : Resolver where
  body f := do
    let body ← s.written files f
    .ok (if FunctionId.isModuleLevel f then ModuleCode.executable body else body)
  callees f := (s.calleesOf f).mapError fun e => .backend e.message
  notices f :=
    match s.written files f with
    | .ok body => if FunctionId.isModuleLevel f then ModuleCode.notices body else []
    | .error _ => []

end Store

end PathAudit
