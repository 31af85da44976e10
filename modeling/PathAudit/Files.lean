import PathAudit.Dict
import PathAudit.Text.Basic
import PathAudit.Text.Utf8

/-! A tree of files under relative names. A path is walked name by name, and each name on the way is
that of a directory; `..` leads back to the directory above. -/
namespace PathAudit

inductive IoFault where
  | notFound
  | notDirectory
  | isDirectory
  | alreadyExists
  | nameTooLong
  | nulInName
  | notText
  deriving DecidableEq, Repr, Inhabited

def IoFault.message : IoFault → String
  | .notFound => "No such file or directory (os error 2)"
  | .notDirectory => "Not a directory (os error 20)"
  | .isDirectory => "Is a directory (os error 21)"
  | .alreadyExists => "File exists (os error 17)"
  | .nameTooLong => "File name too long (os error 36)"
  | .nulInName => "file name contained an unexpected NUL byte"
  | .notText => "stream did not contain valid UTF-8"

def joinPath (directory name : String) : String :=
  if directory.isEmpty || startsWith "/" name then name
  else if endsWith "/" directory then directory ++ name
  else directory ++ "/" ++ name

/-- Drops slashes and single dots from the end of a reversed path, but neither the root nor a dot
that is all there is. -/
private def withoutTail : List Char → List Char
  | ['/'] => ['/']
  | '/' :: rest => withoutTail rest
  | '.' :: '/' :: rest => withoutTail ('/' :: rest)
  | rest => rest

def parentPath? (path : String) : Option String :=
  let above := withoutTail ((withoutTail path.toList.reverse).dropWhile (· != '/'))
  if above.isEmpty || withoutTail path.toList.reverse = ['/'] then none
  else some (String.ofList above.reverse)

inductive FileNode where
  | file (bytes : List UInt8)
  | directory
  deriving DecidableEq, Repr, Inhabited

/-- The nodes below the working directory, by their names without dots. -/
structure Files where
  nodes : Dict FileNode := .empty
  deriving Repr, Inhabited

/-- Where a walk stands: the names from there back to the root or the working directory. -/
structure Place where
  isRooted : Bool
  names : List String := []
  deriving DecidableEq, Repr, Inhabited

namespace Place

def name (p : Place) : String :=
  (if p.isRooted then "/" else "") ++ joined "/" p.names.reverse

/-- One step, without a look at what is there. -/
def step (p : Place) (name : String) : Place :=
  if name == "." then p
  else if name == ".." then { p with names := p.names.drop 1 }
  else { p with names := name :: p.names }

end Place

namespace Files

def steps (path : String) : List String :=
  ((Text.splitOn '/' path.toList).filter (!·.isEmpty)).map String.ofList

def start (path : String) : Place := { isRooted := startsWith "/" path }

/-- The name that a path comes to by its names alone. -/
def normal (path : String) : String := ((steps path).foldl Place.step (start path)).name

def along (path : String) : List String :=
  (List.range (steps path).length).map fun n =>
    (((steps path).take (n + 1)).foldl Place.step (start path)).name

def nodeAt (f : Files) (p : Place) : Option FileNode :=
  if p.names.isEmpty then some .directory else f.nodes.get? p.name

def nameLimit : Nat := 255

def pathLimit : Nat := 4095

/-- One step of a walk. Whatever the name, it is looked for in a directory. -/
def walkStep (f : Files) (p : Place) (name : String) : Except IoFault Place :=
  match f.nodeAt p with
  | none => .error .notFound
  | some (.file _) => .error .notDirectory
  | some .directory =>
    if byteSize name > nameLimit then .error .nameTooLong else .ok (p.step name)

/-- The place that a path leads to; there need not be anything. -/
def locate (f : Files) (path : String) : Except IoFault Place :=
  if path.toList.contains (Char.ofNat 0) then .error .nulInName
  else if path.isEmpty then .error .notFound
  else if byteSize path > pathLimit then .error .nameTooLong
  else (steps path).foldlM f.walkStep (start path)

theorem walked_of_locate {f : Files} {path : String} {p : Place}
    (located : f.locate path = .ok p) : (steps path).foldlM f.walkStep (start path) = .ok p := by
  unfold locate at located
  split at located
  next => contradiction
  next =>
    split at located
    next => contradiction
    next =>
      split at located
      next => contradiction
      next => exact located

def node? (f : Files) (path : String) : Option FileNode :=
  (f.locate path).toOption.bind f.nodeAt

def isOpenEnded (path : String) : Bool := endsWith "/" path

def isDirectory (f : Files) (path : String) : Bool := f.node? path == some .directory

def has (f : Files) (path : String) : Bool :=
  match f.node? path with
  | some (.file _) => !isOpenEnded path
  | some .directory => true
  | none => false

def read (f : Files) (path : String) : Except IoFault (List UInt8) := do
  match f.nodeAt (← f.locate path) with
  | some (.file bytes) => if isOpenEnded path then .error .notDirectory else .ok bytes
  | some .directory => .error .isDirectory
  | none => .error .notFound

def readText (f : Files) (path : String) : Except IoFault String := do
  match Utf8.decode (← f.read path) with
  | some text => .ok (String.ofList text)
  | none => .error .notText

def write (f : Files) (path : String) (bytes : List UInt8) : Except IoFault Files := do
  let p ← f.locate path
  if isOpenEnded path || f.nodeAt p = some .directory then .error .isDirectory
  else .ok { f with nodes := f.nodes.insert p.name (.file bytes) }

def writeText (f : Files) (path text : String) : Except IoFault Files :=
  f.write path (Utf8.encode text.toList)

/-- What was there is there, but for the files under some names. -/
structure Spared (lost : String → Prop) (f after : Files) : Prop where
  directory {p : Place} : f.nodeAt p = some .directory → after.nodeAt p = some .directory
  file {p : Place} {bytes : List UInt8} : ¬lost p.name → f.nodeAt p = some (.file bytes) →
    after.nodeAt p = some (.file bytes)

namespace Spared
variable {f g h : Files} {lost : String → Prop}

theorem refl (f : Files) : Spared lost f f := ⟨id, fun _ => id⟩

theorem trans (first : Spared lost f g) (second : Spared lost g h) : Spared lost f h :=
  ⟨second.directory ∘ first.directory, fun apart => second.file apart ∘ first.file apart⟩

private theorem walk (spared : Spared lost f g) {names : List String} {q stop : Place}
    (walked : names.foldlM f.walkStep q = .ok stop) : names.foldlM g.walkStep q = .ok stop := by
  induction names generalizing q with
  | nil => exact walked
  | cons name names ih =>
    rw [List.foldlM_cons] at walked ⊢
    cases first : f.walkStep q name with
    | error fault =>
      rw [first] at walked
      contradiction
    | ok next =>
      have same : g.walkStep q name = .ok next := by
        unfold walkStep at first ⊢
        split at first
        next => contradiction
        next => contradiction
        next directory =>
          rw [spared.directory directory]
          exact first
      rw [first] at walked
      rw [same]
      exact ih walked

theorem locate {path : String} {p : Place} (spared : Spared lost f g)
    (located : f.locate path = .ok p) : g.locate path = .ok p := by
  unfold Files.locate at located ⊢
  split at located
  next => contradiction
  next plain =>
    split at located
    next => contradiction
    next given =>
      split at located
      next => contradiction
      next short =>
        rw [if_neg plain, if_neg given, if_neg short]
        exact spared.walk located

theorem read {path : String} {bytes : List UInt8} (spared : Spared lost f g)
    (kept : ∀ p, f.locate path = .ok p → ¬lost p.name) (held : f.read path = .ok bytes) :
    g.read path = .ok bytes := by
  unfold Files.read at held ⊢
  cases located : f.locate path with
  | error fault =>
    rw [located] at held
    contradiction
  | ok p =>
    simp only [located, spared.locate located, bind, Except.bind] at held ⊢
    split at held
    next file =>
      rw [spared.file (kept p located) file]
      exact held
    next => contradiction
    next => contradiction

end Spared

section Rereading
variable {f : Files} {p : Place} {bytes : List UInt8}

private def put (f : Files) (p : Place) (bytes : List UInt8) : Files :=
  { f with nodes := f.nodes.insert p.name (.file bytes) }

private theorem names_of_file (file : f.nodeAt p = some (.file bytes)) :
    p.names.isEmpty = false ∧ f.nodes.get? p.name = some (.file bytes) := by
  cases root : p.names.isEmpty with
  | true => simp [nodeAt, root] at file
  | false => exact ⟨rfl, by simpa [nodeAt, root] using file⟩

private theorem nodeAt_put_self (free : f.nodeAt p ≠ some .directory) :
    (f.put p bytes).nodeAt p = some (.file bytes) := by
  have named : p.names.isEmpty = false := by
    cases known : p.names.isEmpty with
    | true => simp [nodeAt, known] at free
    | false => rfl
  simp [put, nodeAt, named]

private theorem spared_put (free : f.nodeAt p ≠ some .directory) {lost : String → Prop}
    (known : lost p.name) : Spared lost f (f.put p bytes) where
  directory {q} directory := by
    unfold nodeAt at free directory ⊢
    cases root : q.names.isEmpty with
    | true => rfl
    | false =>
      have held : f.nodes.get? q.name = some .directory := by simpa [root] using directory
      have apart : q.name ≠ p.name := by
        intro same
        simp [← same, held] at free
      simp [put, apart, held]
  file {q _} apart file := by
    have other : q.name ≠ p.name := by
      intro same
      exact apart (same ▸ known)
    obtain ⟨named, held⟩ := names_of_file file
    simp [put, nodeAt, named, other, held]

private theorem write_eq_ok {path : String} {after : Files}
    (written : f.write path bytes = .ok after) :
    ∃ p, f.locate path = .ok p ∧ isOpenEnded path = false ∧ f.nodeAt p ≠ some .directory ∧
      after = f.put p bytes := by
  unfold write at written
  cases located : f.locate path with
  | error fault =>
    rw [located] at written
    contradiction
  | ok p =>
    simp only [located, bind, Except.bind] at written
    split at written
    next => contradiction
    next proper =>
      simp only [Bool.or_eq_true, decide_eq_true_eq, not_or, Bool.not_eq_true] at proper
      exact ⟨p, rfl, proper.1, proper.2, (Except.ok.inj written).symm⟩

theorem spared_write {path : String} {after : Files} {lost : String → Prop}
    (known : ∀ p, f.locate path = .ok p → lost p.name) (written : f.write path bytes = .ok after) :
    Spared lost f after := by
  obtain ⟨p, located, -, free, rfl⟩ := write_eq_ok written
  exact spared_put free (known p located)

theorem read_of_write {path : String} {after : Files} (written : f.write path bytes = .ok after) :
    after.read path = .ok bytes := by
  obtain ⟨p, located, closed, free, rfl⟩ := write_eq_ok written
  have spared : Spared (fun _ => True) f (f.put p bytes) := spared_put free trivial
  simp [read, spared.locate located, nodeAt_put_self free, closed, bind, Except.bind]

theorem readText_of_writeText {path text : String} {after : Files}
    (written : f.writeText path text = .ok after) : after.readText path = .ok text := by
  rw [readText, read_of_write written]
  simp only [bind, Except.bind, Utf8.decode_encode, String.ofList_toList]

end Rereading

def makeDirectory (f : Files) (path : String) : Except IoFault Files := do
  let p ← f.locate path
  if (f.nodeAt p).isSome then .error .alreadyExists
  else .ok { f with nodes := f.nodes.insert p.name .directory }

private def ensureDirectory (f : Files) (path : String) : Except IoFault Files :=
  match f.makeDirectory path with
  | .ok f => .ok f
  | .error fault => if f.isDirectory path then .ok f else .error fault

private def makeWithin : Nat → Files → String → Except IoFault Files
  | 0, f, path => f.ensureDirectory path
  | depth + 1, f, path =>
    match f.ensureDirectory path, parentPath? path with
    | .error .notFound, some above => do (← makeWithin depth f above).ensureDirectory path
    | result, _ => result

/-- Makes the directory and those above it, where they are missing. -/
def makeDirectories (f : Files) (path : String) : Except IoFault Files :=
  if path.isEmpty then .ok f else makeWithin (steps path).length f path

def makeRoom (f : Files) (path : String) : Except IoFault Files :=
  match parentPath? path with
  | some above => f.makeDirectories above
  | none => .ok f

section Making
variable {f : Files} {lost : String → Prop} {path : String} {after : Files}

theorem spared_makeDirectory (made : f.makeDirectory path = .ok after) : Spared lost f after := by
  unfold makeDirectory at made
  cases located : f.locate path with
  | error fault =>
    rw [located] at made
    contradiction
  | ok p =>
    simp only [located, bind, Except.bind] at made
    split at made
    next => contradiction
    next free =>
      cases Except.ok.inj made
      have kept {q : Place} {node : FileNode} (there : f.nodes.get? q.name = some node)
          (named : q.names.isEmpty = false) :
          nodeAt { f with nodes := f.nodes.insert p.name .directory } q = some node := by
        have other : q.name ≠ p.name := by
          intro same
          simp only [nodeAt, ← same, there] at free
          split at free <;> simp at free
        simp [nodeAt, named, other, there]
      refine ⟨fun {q} directory => ?_, fun _ file => ?_⟩
      · cases root : q.names.isEmpty with
        | true => simp [nodeAt, root]
        | false => exact kept (by simpa [nodeAt, root] using directory) root
      · obtain ⟨named, held⟩ := names_of_file file
        exact kept held named

private theorem spared_ensureDirectory (made : f.ensureDirectory path = .ok after) :
    Spared lost f after := by
  unfold ensureDirectory at made
  split at made
  next new =>
    cases Except.ok.inj made
    exact spared_makeDirectory new
  next =>
    split at made
    · cases Except.ok.inj made
      exact .refl f
    · contradiction

private theorem spared_makeWithin {depth : Nat} (made : makeWithin depth f path = .ok after) :
    Spared lost f after := by
  induction depth generalizing path after with
  | zero => exact spared_ensureDirectory made
  | succ depth ih =>
    rw [makeWithin] at made
    split at made
    next above _ _ =>
      cases upper : makeWithin depth f above with
      | error fault =>
        rw [upper] at made
        contradiction
      | ok higher =>
        rw [upper] at made
        exact (ih upper).trans (spared_ensureDirectory made)
    next => exact spared_ensureDirectory made

theorem spared_makeRoom (made : f.makeRoom path = .ok after) : Spared lost f after := by
  unfold makeRoom makeDirectories at made
  split at made
  next =>
    split at made
    · cases Except.ok.inj made
      exact .refl f
    · exact spared_makeWithin made
  next =>
    cases Except.ok.inj made
    exact .refl f

end Making

def listing (f : Files) (directory : String) : List String :=
  let above := steps directory
  f.nodes.keys.filterMap fun name =>
    let names := steps name
    if names.dropLast = above then names.getLast? else none

end Files

end PathAudit
