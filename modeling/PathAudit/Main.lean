import PathAudit.Cli.Run
import PathAudit.Store.Image

/-! The program. A run works on a picture of the files it may touch, which is taken before and
written back after it. -/
namespace PathAudit.Cli

def look (files : Files) (path : String) : IO Files := do
  let mut files := files
  for name in (Files.along path).filter (!·.isEmpty) do
    let place := (← IO.currentDir) / name
    if ← place.isDir then files := { files with nodes := files.nodes.insert name .directory }
    else if ← place.pathExists then
      let bytes ← IO.FS.readBinFile name
      files := { files with nodes := files.nodes.insert name (.file bytes.toList) }
  return files

def imageOf (bytes : List UInt8) : Option Store := do
  let text ← Utf8.decode (← Disk.stamp.isPrefixOf? bytes)
  Store.ofJson? (← (Json.parse (String.ofList text)).toOption)

def withDatabases (files : Files) : Disk :=
  files.nodes.entries.foldl (fun d (name, node) =>
    match node with
    | .file bytes =>
      match imageOf bytes with
      | some s => { d with databases := d.databases.insert name s }
      | none => d
    | .directory => d) { files }

def finalBytes (d : Disk) (name : String) (bytes : List UInt8) : List UInt8 :=
  match d.databases.get? name with
  | some s => Disk.stamp ++ Utf8.encode s.toJson.compact.toList
  | none => bytes

def writeBack (before after : Disk) : IO Unit := do
  for (name, node) in after.files.nodes.entries do
    match node with
    | .directory =>
      if (before.files.nodes.get? name).isNone then IO.FS.createDirAll name
    | .file bytes =>
      let bytes := finalBytes after name bytes
      if before.files.nodes.get? name != some (.file bytes) then
        IO.FS.writeBinFile name ⟨bytes.toArray⟩

def pathsOf (a : Arguments) (s : Settings) : List String :=
  let databases := [a.database.getD s.storage.databasePath, s.logging.databasePath]
  databases ++ databases.filterMap Disk.keptAs? ++ [s.render.outputDir] ++
    match a.command with
    | .importRecords file | .importIndex file | .export file => [file]
    | .audit _ | .status => []

def modulesOf (d : Disk) : List String :=
  d.databases.entries.flatMap fun (_, s) => s.functions.filterMap fun row =>
    match row.modulePath with
    | .text path => some path
    | _ => none

def execute (words : List String) : IO UInt32 := do
  let home ← IO.getEnv "HOME"
  let given ← Override.all.mapM fun o => return (o.variableName, ← IO.getEnv o.variableName)
  let env : Environment := fun name => (given.lookup name).join
  let mut files : Files := {}
  if let .run a := Request.ofWords words then
    let path := a.settings.getD (Settings.path home)
    files ← look files path
    if let (.ok s, _) := Settings.load home files path env then
      for path in pathsOf a s do files ← look files path
      for path in modulesOf (withDatabases files) do files ← look files path
  let before := withDatabases files
  let (outcome, after) := run home env words before
  writeBack before after
  IO.print outcome.output
  IO.eprint outcome.complaints
  return outcome.code.toUInt32

end PathAudit.Cli

def main (words : List String) : IO UInt32 := PathAudit.Cli.execute words
