import PathAudit.Audit.Session
import PathAudit.Drawing.Render
import PathAudit.Proofs.Json.Compact
import PathAudit.Proofs.Text.Cutting

/-! Which drawings get files of their own. The name of a file shows the number of edges and the key
of the path, but an underscore for every slash and backslash and for the brackets of the module
tail. Two sessions in one directory write to different files exactly when their numbers of edges
differ or their keys differ in what is shown, and then neither touches the files of the other. -/
namespace PathAudit.Dot

def BracketAt (key : List Char) (i : Nat) : Prop :=
  ∃ k, FunctionId.moduleTail.toList <+: key.drop k ∧ (i = k + 1 ∨ i = k + 8)

/-- Whether a file name has an underscore for what stands at the position. -/
def Blurred (key : List Char) (i : Nat) : Prop :=
  key[i]? ∈ [some '_', some '/', some '\\'] ∨ BracketAt key i

/-- Keys that differ at most where both are blurred. -/
def Indistinct (a b : String) : Prop :=
  ∀ i, (Blurred a.toList i ↔ Blurred b.toList i) ∧
    (¬Blurred a.toList i → a.toList[i]? = b.toList[i]?)

section ModuleTail

private abbrev bracketed : List Char := ['<', 'm', 'o', 'd', 'u', 'l', 'e', '>']
private abbrev unbracketed : List Char := ['.', '_', 'm', 'o', 'd', 'u', 'l', 'e', '_']

private theorem moduleTail_toList : FunctionId.moduleTail.toList = '.' :: bracketed := by decide

private theorem bracketAt_cons {c : Char} {key : List Char}
    (other : ¬FunctionId.moduleTail.toList <+: c :: key) (i : Nat) :
    BracketAt (c :: key) i ↔ ∃ j, i = j + 1 ∧ BracketAt key j := by
  constructor
  · rintro ⟨k, here, place⟩
    cases k with
    | zero => exact absurd here other
    | succ k => exact ⟨i - 1, by omega, k, here, by omega⟩
  · rintro ⟨j, rfl, k, here, place⟩
    exact ⟨k + 1, here, by omega⟩

private theorem not_tail_inside {k : Nat} (inside : k < 8) (key : List Char) :
    ¬FunctionId.moduleTail.toList <+: (bracketed ++ key).drop k := by
  rw [moduleTail_toList]
  rintro ⟨rest, occurs⟩
  have dot : (bracketed ++ key)[k]? = some '.' := by
    rw [← List.head?_drop, ← occurs]
    rfl
  rw [List.getElem?_append_left inside] at dot
  exact absurd (List.mem_of_getElem? dot) (by decide)

private theorem bracketAt_tail (key : List Char) (i : Nat) :
    BracketAt ('.' :: (bracketed ++ key)) i ↔
      i = 1 ∨ i = 8 ∨ ∃ j, i = j + 9 ∧ BracketAt key j := by
  constructor
  · rintro ⟨k, here, place⟩
    by_cases first : k = 0
    · omega
    by_cases inside : k < 9
    · obtain ⟨k, rfl⟩ : ∃ l, k = l + 1 := ⟨k - 1, by omega⟩
      exact absurd here (not_tail_inside (by omega) key)
    · obtain ⟨k, rfl⟩ : ∃ l, k = l + 9 := ⟨k - 9, by omega⟩
      exact .inr (.inr ⟨i - 9, by omega, k, here, by omega⟩)
  · rintro (rfl | rfl | ⟨j, rfl, k, here, place⟩)
    · exact ⟨0, by simp [moduleTail_toList], by omega⟩
    · exact ⟨0, by simp [moduleTail_toList], by omega⟩
    · exact ⟨k + 9, here, by omega⟩

open Classical in
private theorem getElem?_replaceAll (key : List Char) (i : Nat) :
    (Text.replaceAll '.' bracketed unbracketed key)[i]? =
      if BracketAt key i then some '_' else key[i]? := by
  fun_induction Text.replaceAll '.' bracketed unbracketed key generalizing i with
  | case1 => simp [BracketAt, moduleTail_toList]
  | case2 c rest occurs ih =>
    obtain ⟨key, whole⟩ := List.isPrefixOf_iff_prefix.mp occurs
    rw [List.cons_append] at whole
    obtain ⟨rfl, rfl⟩ := List.cons.inj whole
    rw [show (bracketed ++ key).drop bracketed.length = key from List.drop_left] at ih ⊢
    rw [List.getElem?_append, ih, ← List.cons_append, List.getElem?_append, List.cons_append]
    simp only [bracketAt_tail]
    by_cases early : i < 9
    · have place : (i = 1 ∨ i = 8 ∨ ∃ j, i = j + 9 ∧ BracketAt key j) ↔ i = 1 ∨ i = 8 := by
        grind
      have all : ∀ i < 9, unbracketed[i]? =
          if i = 1 ∨ i = 8 then some '_' else ('.' :: bracketed)[i]? := by decide
      simp only [place, List.length_cons, List.length_nil, Nat.reduceAdd, early, if_true,
        all i early]
    · obtain ⟨i, rfl⟩ : ∃ j, i = j + 9 := ⟨i - 9, by omega⟩
      simp [early]
  | case3 c rest other ih =>
    have away : ¬FunctionId.moduleTail.toList <+: c :: rest := by
      rwa [moduleTail_toList, ← List.isPrefixOf_iff_prefix]
    cases i with
    | zero => simp [bracketAt_cons away]
    | succ i => simp [ih, bracketAt_cons away]

end ModuleTail

section Names
variable {a b : String} {n m : Nat}

private def shown (key : String) : List Char :=
  (substituted FunctionId.moduleTail "._module_" key).toList.map
    fun c => if c = '/' ∨ c = '\\' then '_' else c

private theorem toList_fileName (n : Nat) (key : String) :
    (fileName n key).toList = Nat.toDigits 10 n ++ '_' :: '_' :: shown key := by
  simp [fileName, decimal, Decimal.ofNat, shown, String.toList_append]

open Classical in
private theorem getElem?_shown (key : String) (i : Nat) :
    (shown key)[i]? = if Blurred key.toList i then some '_' else key.toList[i]? := by
  have parts : (substituted FunctionId.moduleTail "._module_" key).toList =
      Text.replaceAll '.' bracketed unbracketed key.toList := by
    simp [substituted, moduleTail_toList]
  rw [shown, List.getElem?_map, parts, getElem?_replaceAll]
  unfold Blurred
  by_cases bracket : BracketAt key.toList i
  · simp [bracket]
  · cases key.toList[i]? with
    | none => simp [bracket]
    | some c => grind

private theorem shown_underscore_iff (key : String) (i : Nat) :
    (shown key)[i]? = some '_' ↔ Blurred key.toList i := by
  rw [getElem?_shown]
  constructor
  · intro underscore
    by_contra plain
    rw [if_neg plain] at underscore
    exact plain (.inl (by simp [underscore]))
  · exact fun blurred => if_pos blurred

private theorem shown_eq_iff : shown a = shown b ↔ Indistinct a b := by
  constructor
  · intro same i
    -- An underscore shows nothing but that the position is blurred, and only there it stands.
    have both : Blurred a.toList i ↔ Blurred b.toList i := by
      rw [← shown_underscore_iff, ← shown_underscore_iff, same]
    refine ⟨both, fun plain => ?_⟩
    have place := congrArg (·[i]?) same
    rwa [getElem?_shown, getElem?_shown, if_neg plain, if_neg (mt both.mpr plain)] at place
  · intro alike
    refine List.ext_getElem? fun i => ?_
    obtain ⟨both, plain⟩ := alike i
    rw [getElem?_shown, getElem?_shown]
    by_cases blurred : Blurred a.toList i
    · rw [if_pos blurred, if_pos (both.mp blurred)]
    · rw [if_neg blurred, if_neg (mt both.mpr blurred), plain blurred]

private theorem isDigit_of_mem {n : Nat} {c : Char} (member : c ∈ Nat.toDigits 10 n) :
    c.isDigit = true :=
  Nat.isDigit_of_mem_toDigits (by decide) (by decide) member

private theorem no_underscore (n : Nat) : ∀ c ∈ Nat.toDigits 10 n, (c == '_') = false := by
  intro c member
  have digit := isDigit_of_mem member
  rw [beq_eq_false_iff_ne]
  rintro rfl
  exact absurd digit (by decide)

theorem fileName_eq_iff : fileName n a = fileName m b ↔ n = m ∧ Indistinct a b := by
  rw [← String.toList_inj, toList_fileName, toList_fileName, ← shown_eq_iff]
  constructor
  · intro same
    obtain ⟨digits, rest⟩ := Json.word_append_inj (· == '_') (no_underscore n) (no_underscore m)
      (by simp) (by simp) same
    have counts : n = m :=
      calc
        n = Nat.ofDigitChars 10 (Nat.toDigits 10 n) 0 := Nat.ofDigitChars_ten_toDigits.symm
        _ = Nat.ofDigitChars 10 (Nat.toDigits 10 m) 0 := by rw [digits]
        _ = m := Nat.ofDigitChars_ten_toDigits
    exact ⟨counts, by simpa using rest⟩
  · rintro ⟨rfl, same⟩
    rw [same]

theorem slash_not_mem_fileName (n : Nat) (key : String) : '/' ∉ (fileName n key).toList := by
  rw [toList_fileName]
  intro slash
  simp only [List.mem_append, List.mem_cons] at slash
  rcases slash with digit | differs | differs | inside
  · exact absurd (isDigit_of_mem digit) (by decide)
  · exact absurd differs (by decide)
  · exact absurd differs (by decide)
  · obtain ⟨c, -, slash⟩ := List.mem_map.mp inside
    grind

end Names

end PathAudit.Dot

namespace PathAudit.Files

section LastNames
variable {f : Files} {p : Place} {path name : String} {last other : List Char}

/-- A path, or the name of a place, whose part behind the last slash is `last`. -/
def Called (last : List Char) (path : String) : Prop :=
  ∃ above : List Char, (∀ c ∈ above.getLast?, c = '/') ∧ path.toList = above ++ last

theorem Called.unique (one : Called last path) (two : Called other path) (closed : '/' ∉ last)
    (shut : '/' ∉ other) : last = other := by
  obtain ⟨above, ends, whole⟩ := one
  obtain ⟨higher, stops, same⟩ := two
  rw [whole] at same
  have backwards := congrArg List.reverse same
  rw [List.reverse_append, List.reverse_append] at backwards
  have plain {s : List Char} (absent : '/' ∉ s) : ∀ c ∈ s.reverse, (c == '/') = false := by
    intro c member
    rw [beq_eq_false_iff_ne]
    rintro rfl
    exact absent (List.mem_reverse.mp member)
  have found := Json.word_append_inj (· == '/') (plain closed) (plain shut)
    (by simpa using ends) (by simpa using stops) backwards
  exact List.reverse_injective found.1

theorem called_name {rest : List String} (names : p.names = name :: rest) :
    Called name.toList p.name := by
  refine ⟨(if p.isRooted then "/" else "").toList ++
    if rest = [] then [] else Text.join ['/'] (rest.reverse.map String.toList) ++ ['/'], ?_, ?_⟩
  · cases rest with
    | nil => cases p.isRooted <;> simp
    | cons next rest => simp
  · have text : p.name.toList = (if p.isRooted then "/" else "").toList ++
        Text.join ['/'] (rest.reverse.map String.toList ++ [name.toList]) := by
      simp [Place.name, names, joined, String.toList_append]
    rw [text, List.append_assoc]
    congr 1
    by_cases alone : rest = []
    · simp [alone, Text.join]
    · rw [if_neg alone, Text.join_append_last _ _ (by simpa using alone)]

theorem steps_called (called : Called last path) (closed : '/' ∉ last) (given : last ≠ []) :
    ∃ names, steps path = names ++ [String.ofList last] := by
  obtain ⟨above, ends, whole⟩ := called
  rcases List.eq_nil_or_concat above with rfl | ⟨before, c, rfl⟩
  · exact ⟨[], by simp [steps, whole, Text.splitOn_of_not_mem closed, given]⟩
  · obtain rfl : c = '/' := ends c (by simp)
    refine ⟨((Text.splitOn '/' before).filter (!·.isEmpty)).map String.ofList, ?_⟩
    have cut : path.toList = before ++ '/' :: last := by simp [whole]
    simp [steps, cut, Text.splitOn_append_last closed, given]

theorem locate_called (called : Called last path) (closed : '/' ∉ last) (given : last ≠ [])
    (proper : String.ofList last ≠ "." ∧ String.ofList last ≠ "..")
    (located : f.locate path = .ok p) : Called last p.name := by
  obtain ⟨names, cut⟩ := steps_called called closed given
  have walk := walked_of_locate located
  rw [cut, List.foldlM_append] at walk
  cases walked : names.foldlM f.walkStep (start path) with
  | error fault =>
    rw [walked] at walk
    contradiction
  | ok q =>
    rw [walked] at walk
    simp only [bind, Except.bind, List.foldlM_cons, List.foldlM_nil] at walk
    cases stepped : f.walkStep q (String.ofList last) with
    | error fault =>
      rw [stepped] at walk
      contradiction
    | ok there =>
      rw [stepped] at walk
      obtain rfl : there = p := Except.ok.inj walk
      have names : there.names = String.ofList last :: q.names := by
        unfold walkStep at stepped
        split at stepped
        next => contradiction
        next => contradiction
        next =>
          split at stepped
          next => contradiction
          next =>
            obtain rfl := Except.ok.inj stepped
            simp [Place.step, proper.1, proper.2]
      simpa using called_name names

end LastNames

end PathAudit.Files

namespace PathAudit.Drawing
open Files (Called Spared)

def endings : List String := [".dot", ".png"]

def OfDrawing (base : List Char) (name : String) : Prop :=
  ∃ ending ∈ endings, Called (base ++ ending.toList) name

private theorem endings_plain :
    ∀ ending ∈ endings, ending.toList.length = 4 ∧ '/' ∉ ending.toList := by
  decide

section Rendering
variable {base : List Char} {output : String}

private theorem called_append (called : Called base output) (ending : String) :
    Called (base ++ ending.toList) (output ++ ending) := by
  obtain ⟨above, ends, whole⟩ := called
  exact ⟨above, ends, by rw [String.toList_append, whole, List.append_assoc]⟩

private theorem place_called (called : Called base output) (closed : '/' ∉ base)
    {ending : String} (known : ending ∈ endings) {files : Files} {p : Place}
    (located : files.locate (output ++ ending) = .ok p) :
    Called (base ++ ending.toList) p.name := by
  obtain ⟨four, plain⟩ := endings_plain ending known
  have long : 2 < (base ++ ending.toList).length := by
    rw [List.length_append]
    omega
  refine Files.locate_called (called_append called ending) ?_ ?_ ⟨?_, ?_⟩ located
  · rw [List.mem_append, not_or]
    exact ⟨closed, plain⟩
  · intro empty
    simp [empty] at long
  · intro same
    rw [← String.toList_inj, String.toList_ofList] at same
    simp [same] at long
  · intro same
    rw [← String.toList_inj, String.toList_ofList] at same
    simp [same] at long

theorem spared_render (called : Called base output) (closed : '/' ∉ base)
    (program : Option DrawingProgram) (view : PathView) (remark : Option String) (files : Files) :
    Spared (OfDrawing base) files
      (render program output view remark files).2 := by
  have write {before after : Files} {ending : String} {bytes : List UInt8}
      (known : ending ∈ endings) (written : before.write (output ++ ending) bytes = .ok after) :
      Spared (OfDrawing base) before after :=
    Files.spared_write
      (fun _ located => ⟨ending, known, place_called called closed known located⟩) written
  unfold render
  dsimp only
  split
  next => exact .refl files
  next room made =>
    have first : Spared (OfDrawing base) files room := Files.spared_makeRoom made
    split
    next => exact first
    next held sourced =>
      have second := first.trans (write (by decide) sourced)
      split
      next => exact second
      next => exact second
      next => exact second
      next image _ =>
        cases image with
        | none => exact second
        | some bytes =>
          dsimp only
          split
          next => exact second
          next drawn => exact second.trans (write (by decide) drawn)

theorem read_render {name : List Char} {path : String} (called : Called base output)
    (closed : '/' ∉ base) (named : Called name path) (shut : '/' ∉ name) (apart : base ≠ name)
    {ending : String} (known : ending ∈ endings) {files : Files} {bytes : List UInt8}
    (held : files.read (path ++ ending) = .ok bytes) (program : Option DrawingProgram)
    (view : PathView) (remark : Option String) :
    (render program output view remark files).2.read (path ++ ending) = .ok bytes := by
  refine (spared_render called closed program view remark files).read ?_ held
  -- A place that had both names would give away the base, the endings being of one length.
  rintro p located ⟨other, listed, drawn⟩
  obtain ⟨four, plain⟩ := endings_plain ending known
  obtain ⟨quad, even⟩ := endings_plain other listed
  have same := (place_called named shut known located).unique drawn
    (by rw [List.mem_append, not_or]; exact ⟨shut, plain⟩)
    (by rw [List.mem_append, not_or]; exact ⟨closed, even⟩)
  exact apart (List.append_inj_left' same (by rw [four, quad])).symm

end Rendering

end PathAudit.Drawing

namespace PathAudit.Session

section Outputs

private theorem toList_joinPath (outputDir : String) :
    ∃ above : List Char, (∀ c ∈ above.getLast?, c = '/') ∧ ∀ name, startsWith "/" name = false →
      (joinPath outputDir name).toList = above ++ name.toList := by
  by_cases empty : outputDir.isEmpty = true
  · exact ⟨[], by simp, fun name _ => by simp [joinPath, empty]⟩
  by_cases closed : endsWith "/" outputDir = true
  · refine ⟨outputDir.toList, ?_, fun name relative => ?_⟩
    · intro c last
      rw [endsWith, List.isPrefixOf_iff_prefix] at closed
      obtain ⟨rest, backwards⟩ := closed
      rw [← List.head?_reverse, ← backwards] at last
      exact (Option.some.inj last).symm
    · simp [joinPath, empty, closed, relative, String.toList_append]
  · refine ⟨outputDir.toList ++ ['/'], by simp, fun name relative => ?_⟩
    simp [joinPath, empty, closed, relative, String.toList_append]

private theorem relative_fileName (n : Nat) (key : String) :
    startsWith "/" (Dot.fileName n key) = false := by
  rw [startsWith, ← Bool.not_eq_true, List.isPrefixOf_iff_prefix]
  intro rooted
  exact Dot.slash_not_mem_fileName n key (rooted.subset (by decide))

/-- Two sessions have files of their own when the names of these show a difference, and then no
drawing of one takes the place of the other's. -/
theorem outputs_apart_iff (r q : PathRecord) (outputDir : String) :
    let mine := (ofRecord r outputDir).outputPath
    let other := (ofRecord q outputDir).outputPath
    (mine ≠ other ↔ r.graph.size ≠ q.graph.size ∨ ¬Dot.Indistinct r.key q.key) ∧
      (mine ≠ other → ∀ program view remark files, ∀ ending ∈ Drawing.endings, ∀ bytes,
        files.read (mine ++ ending) = .ok bytes →
        (Drawing.render program other view remark files).2.read (mine ++ ending) = .ok bytes) := by
  obtain ⟨above, ends, joins⟩ := toList_joinPath outputDir
  have called (p : PathRecord) : Files.Called (Dot.fileName p.graph.size p.key).toList
      (ofRecord p outputDir).outputPath :=
    ⟨above, ends, joins _ (relative_fileName ..)⟩
  have relative (p : PathRecord) := Dot.slash_not_mem_fileName p.graph.size p.key
  have same : (ofRecord r outputDir).outputPath = (ofRecord q outputDir).outputPath ↔
      Dot.fileName r.graph.size r.key = Dot.fileName q.graph.size q.key := by
    constructor
    · intro one
      rw [← String.toList_inj]
      exact (called r).unique (one ▸ called q) (relative r) (relative q)
    · intro alike
      simp only [ofRecord, alike]
  refine ⟨?_, fun apart program view remark files ending known bytes held => ?_⟩
  · rw [ne_eq, same, Dot.fileName_eq_iff, Decidable.not_and_iff_not_or_not]
  · refine Drawing.read_render (called q) (relative q) (called r) (relative r) ?_ known held
      program view remark
    intro alike
    exact apart (same.mpr (String.toList_inj.mp alike).symm)

private def direct (entry sink : FunctionId) : PathRecord where
  entry := entry
  sink := sink
  callGraph := [.calls entry sink]

private def drawn : Files where
  nodes := (Dict.empty.insert "out" .directory).insert "out/1__main.run---eval.dot" (.file [103])

theorem outputs_apart_eval_exec :
    (¬Dot.Indistinct (direct "main.run" "eval").key (direct "main.run" "exec").key) ∧
      ∀ view, (Drawing.render none (ofRecord (direct "main.run" "exec") "out").outputPath view none
        drawn).2.read "out/1__main.run---eval.dot" = .ok [103] := by
  have apart : (ofRecord (direct "main.run" "eval") "out").outputPath ≠
      (ofRecord (direct "main.run" "exec") "out").outputPath := by
    decide +kernel
  obtain ⟨told, spared⟩ :=
    outputs_apart_iff (direct "main.run" "eval") (direct "main.run" "exec") "out"
  have mine : (ofRecord (direct "main.run" "eval") "out").outputPath ++ ".dot" =
      "out/1__main.run---eval.dot" := by
    decide +kernel
  refine ⟨(told.mp apart).resolve_left (by decide +kernel), fun view => ?_⟩
  have held : drawn.read "out/1__main.run---eval.dot" = .ok [103] := by decide +kernel
  have kept := spared apart none view none drawn ".dot" (by decide) [103] (mine ▸ held)
  rwa [mine] at kept

/-- Two paths of one call, from `tasks/main.run` and from `tasks_main.run`. -/
theorem output_shared :
    (direct "tasks/main.run" "eval").key ≠ (direct "tasks_main.run" "eval").key ∧
      (ofRecord (direct "tasks/main.run" "eval") "out").outputPath =
        (ofRecord (direct "tasks_main.run" "eval") "out").outputPath := by
  decide +kernel

end Outputs

end PathAudit.Session
