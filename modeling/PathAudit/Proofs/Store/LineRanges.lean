import PathAudit.Proofs.Store.Loading

/-! Which lines of a module make up the body of a function. An index gives them by the first line
and their number, two signed words of 64 bits that nothing has checked. The body is there exactly if
the module has all these lines. A reading that counts in such words comes to the same: no difference
and no sum leaves the range of its word, and what is cut out lies within the lines. -/
namespace PathAudit

/-- These lines begin at line `start`, counted from 1, and are `total` in number. -/
structure IsRange (lines : List String) (start total : Int) (chosen : List String) : Prop where
  some : chosen ≠ []
  parted : ∃ before after, lines = before ++ chosen ++ after ∧ start = before.length + 1
  count : total = chosen.length

def HasRange (lines : List String) (start total : Int) : Prop :=
  1 ≤ start ∧ 1 ≤ total ∧ start - 1 + total ≤ lines.length

namespace IsRange
variable {lines chosen : List String} {start total : Int}

theorem hasRange (range : IsRange lines start total chosen) : HasRange lines start total := by
  obtain ⟨before, after, rfl, first⟩ := range.parted
  have count := range.count
  have some := List.length_pos_of_ne_nil range.some
  simp only [HasRange, List.length_append]
  omega

theorem eq_take (range : IsRange lines start total chosen) :
    chosen = (lines.drop (start - 1).toNat).take total.toNat := by
  obtain ⟨before, after, rfl, first⟩ := range.parted
  have begins : (start - 1).toNat = before.length := by omega
  have count : total.toNat = chosen.length := by
    rw [range.count, Int.toNat_natCast]
  rw [begins, count, List.append_assoc, List.drop_left, List.take_left]

end IsRange

theorem HasRange.isRange {lines : List String} {start total : Int}
    (range : HasRange lines start total) :
    IsRange lines start total ((lines.drop (start - 1).toNat).take total.toNat) := by
  obtain ⟨first, count, within⟩ := range
  have length : ((lines.drop (start - 1).toNat).take total.toNat).length = total.toNat := by
    rw [List.length_take, List.length_drop]
    omega
  refine ⟨?_, ?_, ?_⟩
  · apply List.ne_nil_of_length_pos
    omega
  · refine ⟨lines.take (start - 1).toNat, (lines.drop (start - 1).toNat).drop total.toNat, ?_, ?_⟩
    · rw [List.append_assoc, List.take_append_drop, List.take_append_drop]
    · rw [List.length_take]
      omega
  · rw [length]
    omega

theorem exists_isRange_iff {lines : List String} {start total : Int} :
    (∃ chosen, IsRange lines start total chosen) ↔ HasRange lines start total := by
  constructor
  · rintro ⟨chosen, range⟩
    exact range.hasRange
  · intro range
    exact ⟨_, range.isRange⟩

theorem sourceLines?_eq_some_iff {text body : String} {start total : Int} :
    sourceLines? text start total = some body ↔
      ∃ chosen, IsRange (linesOf text) start total chosen ∧ body = joined "\n" chosen := by
  unfold sourceLines?
  dsimp only
  split
  next range =>
    constructor
    · intro same
      exact ⟨_, HasRange.isRange range, (Option.some.inj same).symm⟩
    · rintro ⟨chosen, isRange, rfl⟩
      rw [isRange.eq_take]
  next none =>
    constructor
    · intro same
      contradiction
    · rintro ⟨chosen, isRange, -⟩
      exact absurd isRange.hasRange none

/-- What would stop a reading that counts in words. -/
inductive CountFault where
  | overflow
  | outOfRange
  deriving DecidableEq, Repr

namespace LineCount

def sub (a b : Int64) : Except CountFault Int64 :=
  if BitVec.ssubOverflow a.toBitVec b.toBitVec then .error .overflow else .ok (a - b)

def unsigned? (a : Int64) : Option UInt64 := if a < 0 then none else some a.toUInt64

def add? (a b : UInt64) : Option UInt64 :=
  if BitVec.uaddOverflow a.toBitVec b.toBitVec then none else some (a + b)

def slice (lines : List String) (first stop : UInt64) : Except CountFault (List String) :=
  if first ≤ stop ∧ stop.toNat ≤ lines.length then
    .ok ((lines.take stop.toNat).drop first.toNat)
  else .error .outOfRange

/-- The reading of a range of lines, step by step. -/
def read (lines : List String) (start total : Int64) : Except CountFault (Option String) :=
  if start < 1 ∨ total < 1 then .ok none
  else do
    match unsigned? (← sub start 1), unsigned? total with
    | some first, some count =>
      match add? first count with
      | some stop =>
        if lines.length < stop.toNat then .ok none
        else do .ok (some (joined "\n" (← slice lines first stop)))
      | none => .ok none
    | _, _ => .ok none

theorem sub_one {a : Int64} (positive : 1 ≤ a.toInt) :
    sub a 1 = .ok (a - 1) ∧ (a - 1).toInt = a.toInt - 1 := by
  have below := a.toInt_lt
  have fits : BitVec.ssubOverflow a.toBitVec (1 : Int64).toBitVec = false := by
    simp [BitVec.ssubOverflow]
    omega
  refine ⟨by rw [sub, fits, if_neg Bool.false_ne_true], ?_⟩
  rw [Int64.toInt_sub, Int64.toInt_one]
  exact Int.bmod_eq_of_le (by omega) (by omega)

theorem toNat_toUInt64 {a : Int64} (natural : 0 ≤ a.toInt) :
    (a.toUInt64.toNat : Int) = a.toInt := by
  have value := BitVec.toInt_eq_toNat_cond a.toBitVec
  have below := a.toBitVec.isLt
  rw [Int64.toInt_toBitVec] at value
  change (a.toBitVec.toNat : Int) = a.toInt
  split at value <;> omega

theorem unsigned?_of_natural {a : Int64} (natural : 0 ≤ a.toInt) :
    unsigned? a = some a.toUInt64 := by
  rw [unsigned?, if_neg]
  rw [Int64.lt_iff_toInt_lt, Int64.toInt_zero]
  omega

theorem add?_of_small {a b : UInt64} (small : a.toNat + b.toNat < 2 ^ 64) :
    add? a b = some (a + b) ∧ (a + b).toNat = a.toNat + b.toNat := by
  have fits : BitVec.uaddOverflow a.toBitVec b.toBitVec = false := by
    simp [BitVec.uaddOverflow]
    omega
  refine ⟨by rw [add?, fits, if_neg Bool.false_ne_true], ?_⟩
  rw [UInt64.toNat_add, Nat.mod_eq_of_lt small]

theorem slice_of_le {lines : List String} {first stop : UInt64} (ordered : first.toNat ≤ stop.toNat)
    (within : stop.toNat ≤ lines.length) :
    slice lines first stop = .ok ((lines.drop first.toNat).take (stop.toNat - first.toNat)) := by
  rw [slice, if_pos ⟨UInt64.le_iff_toNat_le.mpr ordered, within⟩, List.drop_take]

theorem read_eq (text : String) (start total : Int64) :
    read (linesOf text) start total = .ok (sourceLines? text start.toInt total.toInt) := by
  unfold read sourceLines?
  simp only [Int64.lt_iff_toInt_lt, Int64.toInt_one]
  by_cases none : start.toInt < 1 ∨ total.toInt < 1
  · rw [if_pos none, if_neg (by omega)]
  · rw [if_neg none]
    rw [not_or, Int.not_lt, Int.not_lt] at none
    obtain ⟨first, count⟩ := none
    have startBelow := start.toInt_lt
    have totalBelow := total.toInt_lt
    obtain ⟨subtracted, before⟩ := sub_one first
    have skipped := toNat_toUInt64 (a := start - 1) (by omega)
    have taken := toNat_toUInt64 (a := total) (by omega)
    obtain ⟨added, stop⟩ :=
      add?_of_small (a := (start - 1).toUInt64) (b := total.toUInt64) (by omega)
    -- Both words are below half the range of a word without a sign, so their sum is one.
    simp only [subtracted, bind, Except.bind, unsigned?_of_natural (a := start - 1) (by omega),
      unsigned?_of_natural (a := total) (by omega), added]
    by_cases beyond : (linesOf text).length < ((start - 1).toUInt64 + total.toUInt64).toNat
    · rw [if_pos beyond, if_neg (by omega)]
    · have begins : (start.toInt - 1).toNat = (start - 1).toUInt64.toNat := by omega
      have number : total.toInt.toNat =
          ((start - 1).toUInt64 + total.toUInt64).toNat - (start - 1).toUInt64.toNat := by
        omega
      rw [if_neg beyond, if_pos (by omega), slice_of_le (by omega) (by omega), begins, number]

end LineCount

namespace FunctionEntry

def IsIn (e : FunctionEntry) (files : Files) (text : String) : Prop :=
  ∃ path, e.modulePath = some path ∧ files.readText path = .ok text

theorem written?_eq_some_iff {e : FunctionEntry} {files : Files} {body : String}
    (external : e.body = none) : e.written? files = some body ↔
      ∃ text start total, e.IsIn files text ∧ e.startLine = some start ∧
        e.totalLines = some total ∧ sourceLines? text start total = some body := by
  obtain ⟨name, modulePath, startLine, totalLines, own⟩ := e
  obtain rfl : own = none := external
  unfold written? IsIn
  cases modulePath with
  | none => simp
  | some path =>
    cases startLine with
    | none => simp
    | some start =>
      cases totalLines with
      | none => simp
      | some total =>
        cases read : files.readText path with
        | error fault => simp [read, Except.toOption]
        | ok text => simp [read, Except.toOption]

end FunctionEntry

namespace Store

theorem body_of_function? {s : Store} {files : Files} {f : FunctionId} {e : FunctionEntry}
    (found : s.function? f = .ok (some e)) (plain : f.isModuleLevel = false) :
    (s.resolver files).body f =
      match e.written? files with
      | some body => .ok body
      | none => .error (.notFound f) := by
  unfold resolver
  dsimp only
  rw [written, found]
  simp only [Except.mapError, bind, Except.bind, Option.bind, plain]
  cases e.written? files <;> rfl

theorem function?_upsertFunction (s : Store) (e : FunctionEntry) :
    (s.upsertFunction e).function? e.name = .ok (some e) := by
  have named : e.row.name = .text e.name := rfl
  have row : (s.upsertFunction e).functions.find? (fun r => r.name.equals (.text e.name)) =
      some e.row :=
    (find?_upsert named s.functions e.name).trans (if_pos rfl)
  rw [function?, row]
  obtain ⟨name, modulePath, startLine, totalLines, own⟩ := e
  cases modulePath <;> cases startLine <;> cases totalLines <;> cases own <;> rfl

/-- For all texts and all words the reading of lines goes through, and gives a text exactly if the
lines are all there: then these lines. The body of a function whose entry has none of its own, and
that is not a module's code, is that text; it is not found in every other case, as where the module
cannot be read or a part of the place is missing. -/
theorem body_by_line_range :
    (∀ (text : String) (start total : Int64),
      LineCount.read (linesOf text) start total =
        .ok (sourceLines? text start.toInt total.toInt)) ∧
    (∀ (text : String) (start total : Int),
      ((∃ body, sourceLines? text start total = some body) ↔
        1 ≤ start ∧ 1 ≤ total ∧ start - 1 + total ≤ (linesOf text).length) ∧
      ∀ body, sourceLines? text start total = some body ↔
        ∃ chosen, IsRange (linesOf text) start total chosen ∧ body = joined "\n" chosen) ∧
    ∀ (s : Store) (files : Files) (f : FunctionId) (e : FunctionEntry),
      s.function? f = .ok (some e) → e.body = none → f.isModuleLevel = false →
      (∀ body, (s.resolver files).body f = .ok body ↔
        ∃ text start total, e.IsIn files text ∧ e.startLine = some start ∧
          e.totalLines = some total ∧ sourceLines? text start total = some body) ∧
      ((¬∃ body, (s.resolver files).body f = .ok body) →
        (s.resolver files).body f = .error (.notFound f)) := by
  refine ⟨LineCount.read_eq, fun text start total => ⟨?_, ?_⟩, ?_⟩
  · rw [← HasRange, ← exists_isRange_iff]
    simp only [sourceLines?_eq_some_iff]
    constructor
    · rintro ⟨body, chosen, range, -⟩
      exact ⟨chosen, range⟩
    · rintro ⟨chosen, range⟩
      exact ⟨_, chosen, range, rfl⟩
  · intro body
    exact sourceLines?_eq_some_iff
  · intro s files f e found external plain
    have written (body : String) := @FunctionEntry.written?_eq_some_iff e files body external
    rw [body_of_function? found plain]
    cases body : e.written? files with
    | none =>
      refine ⟨fun body' => ?_, fun _ => rfl⟩
      rw [← written, body]
      simp
    | some text =>
      refine ⟨fun body' => ?_, fun none => absurd ⟨text, rfl⟩ none⟩
      rw [← written, body]
      simp

private def loader : FunctionEntry :=
  { name := "loader.load", modulePath := some "m.py", startLine := some 3, totalLines := some 2 }

private def loaderText : String :=
  "import torch\n\ndef load(p):\n    return torch.load(p)\n"

private def loaderFiles : Files :=
  { nodes := .ofList [("m.py", .file (Utf8.encode loaderText.toList))] }

theorem body_by_line_range_loader :
    let s : Store := ({} : Store).upsertFunction loader
    s.function? "loader.load" = .ok (some loader) ∧ loader.body = none ∧
      FunctionId.isModuleLevel "loader.load" = false ∧
      (s.resolver loaderFiles).body "loader.load" =
        .ok "def load(p):\n    return torch.load(p)" ∧
      ((s.upsertFunction { loader with totalLines := none }).resolver loaderFiles).body
        "loader.load" = .error (.notFound "loader.load") := by
  intro s
  have found : s.function? "loader.load" = .ok (some loader) := function?_upsertFunction {} loader
  have plain : FunctionId.isModuleLevel "loader.load" = false := by decide
  refine ⟨found, rfl, plain, ?_, ?_⟩
  · apply ((body_by_line_range.2.2 s loaderFiles "loader.load" loader found rfl plain).1 _).mpr
    refine ⟨loaderText, 3, 2, ⟨"m.py", rfl, ?_⟩, rfl, rfl, ?_⟩
    · decide +kernel
    · decide
  · obtain ⟨here, notFound⟩ := body_by_line_range.2.2 _ loaderFiles "loader.load" _
      (function?_upsertFunction s { loader with totalLines := none }) rfl plain
    apply notFound
    rintro ⟨body, written⟩
    obtain ⟨text, start, total, -, -, number, -⟩ := (here body).mp written
    contradiction

end Store

end PathAudit
