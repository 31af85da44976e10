import PathAudit.Proofs.Json.Rereading
import PathAudit.Proofs.Store.Numbering
import PathAudit.Store.Records
import Mathlib.Data.List.Nodup

/-! The rows of path records beside a ledger of what was stored, the latest first. Each record that
is taken in becomes one row under the next number of its key, and the text in the row is read as the
record. -/
namespace PathAudit

namespace PathRecord

def Sorted (r : PathRecord) : Prop := Increasing r.annotations.entries

private theorem toJson_eq (r : PathRecord) :
    r.toJson = .object ([("entry_name", .string r.entry), ("sink_name", .string r.sink),
      ("call_graph", .array (r.callGraph.map CallEdge.toJson)),
      ("function_analysis_records", r.annotations.toJson)] ++
      (r.doubleCheck.map fun text => ("double_check", .string text)).toList ++
      (r.conclusion.map fun b =>
        ("conclusion", .object [("is_vulnerable", .bool b)])).toList ++
      (r.auditResult.map fun text => ("audit_result", .string text)).toList) := by
  obtain ⟨entry, sink, callGraph, annotations, doubleCheck, conclusion, auditResult⟩ := r
  cases doubleCheck <;> cases conclusion <;> cases auditResult <;> rfl

theorem allNumbers_toJson (p : JsonNumber → Prop) (r : PathRecord) : r.toJson.AllNumbers p := by
  have edges : Json.AllItems p (r.callGraph.map CallEdge.toJson) := by
    refine (Json.allItems_iff _).mpr fun item member => ?_
    obtain ⟨e, -, rfl⟩ := List.mem_map.mp member
    exact ⟨trivial, trivial, trivial, trivial⟩
  have findings : r.annotations.toJson.AllNumbers p := by
    refine (Json.allMembers_iff _).mpr fun member listed => ?_
    obtain ⟨entry, -, rfl⟩ := List.mem_map.mp listed
    refine (Json.allMembers_iff _).mpr fun text held => ?_
    obtain ⟨finding, -, rfl⟩ := List.mem_map.mp held
    trivial
  rw [toJson_eq]
  refine (Json.allMembers_iff _).mpr fun member listed => ?_
  simp only [List.mem_append, List.mem_cons, List.not_mem_nil, or_false, Option.mem_toList,
    Option.map_eq_some_iff] at listed
  rcases listed with (((rfl | rfl | rfl | rfl) | ⟨text, -, rfl⟩) | ⟨b, -, rfl⟩) | ⟨text, -, rfl⟩
  · trivial
  · trivial
  · exact edges
  · exact findings
  · trivial
  · exact ⟨trivial, trivial⟩
  · trivial

theorem ofText_toJson {r : PathRecord} (sorted : r.Sorted) :
    decoder.ofText r.toJson.compact = .ok r := by
  have same : r.toJson.reread = r.toJson :=
    Json.mapNumbers_of_fixed (allNumbers_toJson _ r)
  rw [Decoder.ofText, ofText_compact (allNumbers_toJson _ r), same]
  simp only [decoder_toJson sorted, bind, Except.bind, Bool.false_eq_true, if_false]

end PathRecord

theorem Sinks.sorted_seed {r : PathRecord} (sorted : r.Sorted) : (seed r).Sorted := by
  unfold seed
  split
  · exact Dict.increasing_insert sorted _ _
  · exact sorted

/-- What was stored under which key, the latest first. -/
abbrev Ledger := List (String × PathRecord)

namespace Ledger

def revisions (l : Ledger) (key : String) : Nat := l.countP fun entry => entry.1 = key

/-- The numbers of revisions have 63 bits. -/
def save (l : Ledger) (key : String) (r : PathRecord) : Option Ledger :=
  if l.revisions key + 1 < 2 ^ 63 then some ((key, r) :: l) else none

/-- A key whose record has a conclusion is left alone. -/
def importRecord (l : Ledger) (entry : String × PathRecord) : Option Ledger :=
  if (l.lookup entry.1).any (·.isConcluded) then some l else l.save entry.1 (Sinks.seed entry.2)

def importRecords (l : Ledger) (records : Dict PathRecord) : Option Ledger :=
  records.entries.foldlM importRecord l

def row (key : String) (revision : Nat) (r : PathRecord) : RecordRow :=
  ⟨.text key, .int revision, .int r.callGraph.length, .int (if r.isConcluded then 1 else 0),
    .text r.toJson.compact⟩

def rows : Ledger → List RecordRow
  | [] => []
  | (key, r) :: l => rows l ++ [row key (revisions l key + 1) r]

def Sorted (l : Ledger) : Prop := ∀ entry ∈ l, entry.2.Sorted

section Rows
variable (l : Ledger) (key other : String) (r : PathRecord)

theorem revisions_cons_self : revisions ((key, r) :: l) key = l.revisions key + 1 := by
  simp [revisions]

variable {key other} in
theorem revisions_cons_of_ne (apart : other ≠ key) :
    revisions ((key, r) :: l) other = l.revisions other := by
  simp [revisions, Ne.symm apart]

def rowsOf : List RecordRow := l.rows.filter fun row => row.key.equals (.text key)

theorem rowsOf_cons_self :
    rowsOf ((key, r) :: l) key = l.rowsOf key ++ [row key (l.revisions key + 1) r] := by
  simp [rowsOf, rows, row]

variable {key other} in
theorem rowsOf_cons_of_ne (apart : other ≠ key) :
    rowsOf ((key, r) :: l) other = l.rowsOf other := by
  simp [rowsOf, rows, row, Ne.symm apart]

theorem revision_rowsOf :
    (l.rowsOf key).map (·.revision) =
      ((List.range (l.revisions key)).map fun n => ((n + 1 : Nat) : Int)).map .int := by
  induction l with
  | nil => rfl
  | cons entry l ih =>
    obtain ⟨k, r⟩ := entry
    by_cases same : k = key
    · subst same
      rw [rowsOf_cons_self, revisions_cons_self, List.map_append, ih, List.range_succ]
      simp [row]
    · rw [rowsOf_cons_of_ne l r (Ne.symm same), revisions_cons_of_ne l r (Ne.symm same), ih]

theorem getLast?_rowsOf :
    (l.rowsOf key).getLast? = (l.lookup key).map (row key (l.revisions key)) := by
  induction l with
  | nil => rfl
  | cons entry l ih =>
    obtain ⟨k, r⟩ := entry
    by_cases same : k = key
    · subst same
      rw [rowsOf_cons_self, revisions_cons_self, List.getLast?_concat]
      simp
    · rw [rowsOf_cons_of_ne l r (Ne.symm same), revisions_cons_of_ne l r (Ne.symm same), ih,
        List.lookup_cons, beq_false_of_ne (Ne.symm same)]

end Rows

def numbers (n : Nat) : List Int := (List.range n).map fun i => ((i + 1 : Nat) : Int)

theorem pairwise_numbers (n : Nat) : (numbers n).Pairwise (· < ·) := by
  refine List.pairwise_map.mpr (List.pairwise_lt_range.imp ?_)
  intro a b below
  omega

theorem mem_numbers {n : Nat} {i : Int} (member : i ∈ numbers n) : 1 ≤ i ∧ i ≤ n := by
  obtain ⟨k, inside, rfl⟩ := List.mem_map.mp member
  have below : k < n := List.mem_range.mp inside
  omega

theorem getLast?_numbers (n : Nat) : (numbers n).getLast?.getD 0 = n := by
  cases n with
  | zero => rfl
  | succ n => simp [numbers, List.range_succ]

end Ledger

namespace Store
variable {s : Store} {l : Ledger}

def Holds (s : Store) (l : Ledger) : Prop := s.records = l.rows

theorem Holds.revisionsOf (holds : s.Holds l) (key : String) :
    s.revisionsOf key = l.rowsOf key := by
  rw [Store.revisionsOf, holds, Ledger.rowsOf]

theorem Holds.numbered (holds : s.Holds l) (key : String) :
    (s.revisionsOf key).map (·.revision) = (Ledger.numbers (l.revisions key)).map .int := by
  rw [holds.revisionsOf, l.revision_rowsOf key]
  rfl

theorem Holds.nextNumber_eq_ok_iff (holds : s.Holds l) (key : String) (n : Int) :
    nextNumber "revision" ((s.revisionsOf key).map (·.revision)) = .ok n ↔
      n = (l.revisions key + 1 : Nat) ∧ l.revisions key + 1 < 2 ^ 63 := by
  rw [holds.numbered, Store.nextNumber_eq_ok_iff (Ledger.pairwise_numbers _),
    Ledger.getLast?_numbers]
  refine and_congr_right fun next => ?_
  have room : Cell.fitsInteger n = true ↔ n < 2 ^ 63 := by
    simp [Cell.fitsInteger]
    omega
  rw [room]
  omega

theorem Holds.unused (holds : s.Holds l) (key : String) :
    (s.records.any fun row => row.key.equals (.text key) &&
      row.revision.equals (.int (l.revisions key + 1 : Nat))) = false := by
  refine List.any_eq_false.mpr fun row member => ?_
  intro both
  obtain ⟨own, same⟩ := Bool.and_eq_true_iff.mp both
  have listed : row.revision ∈ (s.revisionsOf key).map (·.revision) :=
    List.mem_map_of_mem (List.mem_filter.mpr ⟨member, own⟩)
  rw [holds.numbered] at listed
  obtain ⟨n, inside, shown⟩ := List.mem_map.mp listed
  rw [← shown, Cell.equals_int, decide_eq_true_iff] at same
  have within := (Ledger.mem_numbers inside).2
  omega

theorem Holds.save (holds : s.Holds l) {key : String}
    (fits : l.revisions key + 1 < 2 ^ 63) (r : PathRecord) :
    ∃ after, s.save key r = .ok (after, ((l.revisions key + 1 : Nat) : Int)) ∧
      after.Holds ((key, r) :: l) := by
  have next := (holds.nextNumber_eq_ok_iff key _).mpr ⟨rfl, fits⟩
  let added := Ledger.row key (l.revisions key + 1) r
  refine ⟨{ s with records := s.records ++ [added] }, ?_, ?_⟩
  · have inserted : s.insertRecord added = .ok { s with records := s.records ++ [added] } := by
      rw [insertRecord]
      simp only [added, Ledger.row, holds.unused key]
      rfl
    rw [Store.save, next]
    change (s.insertRecord added).bind (fun after => .ok (after, _)) = _
    rw [inserted]
    rfl
  · rw [Holds, holds]
    rfl

theorem Holds.save_full (holds : s.Holds l) {key : String}
    (full : ¬l.revisions key + 1 < 2 ^ 63) (r : PathRecord) : ∃ e, s.save key r = .error e := by
  rw [Store.save]
  cases next : nextNumber "revision" ((s.revisionsOf key).map (·.revision)) with
  | error e => exact ⟨e, rfl⟩
  | ok n => exact absurd ((holds.nextNumber_eq_ok_iff key n).mp next).2 full

private theorem head?_of_descending {α : Type} (f : α → Int) {rows sorted : List α}
    (same : sorted.Perm rows) (descending : sorted.Pairwise fun a b => f b ≤ f a)
    (ascending : (rows.map f).Pairwise (· < ·)) : sorted.head? = rows.getLast? := by
  have distinct : (rows.map f).Nodup := ascending.imp Int.ne_of_lt
  have reversed : sorted = rows.reverse := by
    refine List.Perm.eq_of_pairwise ?_ descending ?_ (same.trans (List.reverse_perm rows).symm)
    · intro a b left right above below
      refine List.inj_on_of_nodup_map distinct (same.mem_iff.mp left) (List.mem_reverse.mp right) ?_
      exact Int.le_antisymm below above
    · exact List.pairwise_reverse.mpr ((List.pairwise_map.mp ascending).imp Int.le_of_lt)
  rw [reversed, List.head?_reverse]

private def number : Cell → Int
  | .int n => n
  | _ => 0

/-- The row that a descending order puts first is the one that was added last. -/
theorem latestRow?_eq {key : String} {numbers : List Int}
    (numbered : (s.revisionsOf key).map (·.revision) = numbers.map .int)
    (increasing : numbers.Pairwise (· < ·)) :
    s.latestRow? key = (s.revisionsOf key).getLast? := by
  unfold latestRow?
  generalize s.revisionsOf key = rows at numbered ⊢
  have held : ∀ row ∈ rows, row.revision = .int (number row.revision) := by
    intro row member
    have listed : row.revision ∈ numbers.map .int := numbered ▸ List.mem_map_of_mem member
    obtain ⟨n, -, shown⟩ := List.mem_map.mp listed
    rw [← shown]
    rfl
  have values : rows.map (fun row => number row.revision) = numbers := by
    have shown := congrArg (List.map number) numbered
    rw [List.map_map, List.map_map] at shown
    exact shown.trans (List.map_id numbers)
  refine head?_of_descending (fun row => number row.revision) (List.mergeSort_perm _ _) ?_
    (by rwa [values])
  refine Cell.pairwise_sortBy (fun row : RecordRow => OrderDual.toDual (number row.revision)) ?_
  intro a left b right
  rw [held a left, held b right]
  rfl

theorem Holds.latestRow? (holds : s.Holds l) (key : String) :
    s.latestRow? key = (l.lookup key).map (Ledger.row key (l.revisions key)) := by
  rw [latestRow?_eq (holds.numbered key) (Ledger.pairwise_numbers _), holds.revisionsOf,
    l.getLast?_rowsOf]

theorem Holds.isConcluded (holds : s.Holds l) (key : String) :
    s.isConcluded key = .ok ((l.lookup key).any (·.isConcluded)) := by
  rw [Store.isConcluded, holds.latestRow?]
  cases l.lookup key with
  | none => rfl
  | some r =>
    cases concluded : r.isConcluded with
    | true => simp [Ledger.row, concluded, Cell.readFlag, Except.mapError]
    | false => simp [Ledger.row, concluded, Cell.readFlag, Except.mapError]

/-- The store comes to hold what the ledger says, or both refuse. -/
def Follows {τ : Type} : Except StoreError (Store × τ) → Option Ledger → Prop
  | .ok (after, _), some l => after.Holds l
  | .error _, none => True
  | _, _ => False

def settle {τ : Type} (s : Store) : Except StoreError (Store × τ) → Store
  | .ok (after, _) => after
  | .error _ => s

theorem Follows.settle {τ : Type} {result : Except StoreError (Store × τ)} {listed : Option Ledger}
    (follows : Follows result listed) (holds : s.Holds l) :
    (s.settle result).Holds (listed.getD l) := by
  match result, listed, follows with
  | .ok (after, _), some next, held => exact held
  | .error e, none, _ => exact holds

theorem Holds.save_follows (holds : s.Holds l) (key : String) (r : PathRecord) :
    Follows (s.save key r) (l.save key r) := by
  unfold Ledger.save
  split
  next fits =>
    obtain ⟨after, saved, held⟩ := holds.save fits r
    rw [saved]
    exact held
  next full =>
    obtain ⟨e, refused⟩ := holds.save_full full r
    rw [refused]
    trivial

theorem Holds.importRecord (holds : s.Holds l) (summary : ImportSummary)
    (entry : String × PathRecord) :
    Follows (Store.importRecord (s, summary) entry) (l.importRecord entry) := by
  obtain ⟨key, r⟩ := entry
  unfold Store.importRecord Ledger.importRecord
  dsimp only
  rw [holds.isConcluded]
  cases (l.lookup key).any (·.isConcluded) with
  | true => exact holds
  | false =>
    have saved := holds.save_follows key (Sinks.seed r)
    simp only [bind, Except.bind, Bool.false_eq_true, if_false]
    generalize s.save key (Sinks.seed r) = stored at saved ⊢
    generalize l.save key (Sinks.seed r) = listed at saved ⊢
    match stored, listed, saved with
    | .ok (after, _), some next, held => exact held
    | .error e, none, _ => trivial

theorem Holds.importEntries (holds : s.Holds l) (summary : ImportSummary)
    (entries : List (String × PathRecord)) :
    Follows (entries.foldlM Store.importRecord (s, summary))
      (entries.foldlM Ledger.importRecord l) := by
  induction entries generalizing s l summary with
  | nil => exact holds
  | cons entry entries ih =>
    rw [List.foldlM_cons, List.foldlM_cons]
    have first := holds.importRecord summary entry
    generalize Store.importRecord (s, summary) entry = stored at first ⊢
    generalize l.importRecord entry = listed at first ⊢
    match stored, listed, first with
    | .ok (after, told), some next, held => exact ih held told
    | .error e, none, _ => trivial

end Store

inductive Submission where
  | one (key : String) (record : PathRecord)
  | many (records : Dict PathRecord)

namespace Submission

def Sorted : Submission → Prop
  | .one _ record => record.Sorted
  | .many records => ∀ entry ∈ records.entries, entry.2.Sorted

def toStore (s : Store) : Submission → Store
  | .one key record => s.settle (s.save key record)
  | .many records => s.settle (s.importRecords records)

def toLedger (l : Ledger) : Submission → Ledger
  | .one key record => (l.save key record).getD l
  | .many records => (l.importRecords records).getD l

theorem holds_toStore {s : Store} {l : Ledger} (holds : s.Holds l) (x : Submission) :
    (x.toStore s).Holds (x.toLedger l) := by
  cases x with
  | one key record => exact (holds.save_follows key record).settle holds
  | many records => exact (holds.importEntries {} records.entries).settle holds

end Submission

def Store.taking (submissions : List Submission) : Store :=
  submissions.foldl Submission.toStore {}

def Ledger.taking (submissions : List Submission) : Ledger :=
  submissions.foldl Submission.toLedger []

theorem holds_taking (submissions : List Submission) :
    (Store.taking submissions).Holds (Ledger.taking submissions) := by
  have onward (s : Store) (l : Ledger) (holds : s.Holds l) :
      (submissions.foldl Submission.toStore s).Holds
        (submissions.foldl Submission.toLedger l) := by
    induction submissions generalizing s l with
    | nil => exact holds
    | cons x submissions ih => exact ih _ _ (x.holds_toStore holds)
  exact onward {} [] rfl

section Sorting
variable {l next : Ledger}

theorem Ledger.Sorted.save (sorted : l.Sorted) {key : String} {r : PathRecord} (fine : r.Sorted)
    (saved : l.save key r = some next) : next.Sorted := by
  unfold Ledger.save at saved
  split at saved
  · cases saved
    exact List.forall_mem_cons.mpr ⟨fine, sorted⟩
  · contradiction

theorem Ledger.Sorted.importEntries (sorted : l.Sorted) {entries : List (String × PathRecord)}
    (fine : ∀ entry ∈ entries, entry.2.Sorted)
    (taken : entries.foldlM Ledger.importRecord l = some next) : next.Sorted := by
  induction entries generalizing l with
  | nil =>
    cases taken
    exact sorted
  | cons entry entries ih =>
    obtain ⟨first, rest⟩ := List.forall_mem_cons.mp fine
    rw [List.foldlM_cons] at taken
    obtain ⟨middle, one, others⟩ := Option.bind_eq_some_iff.mp taken
    refine ih ?_ rest others
    unfold Ledger.importRecord at one
    split at one
    · cases one
      exact sorted
    · exact sorted.save (Sinks.sorted_seed first) one

theorem Submission.sorted_toLedger (sorted : l.Sorted) {x : Submission} (fine : x.Sorted) :
    (x.toLedger l).Sorted := by
  cases x with
  | one key record =>
    change Ledger.Sorted ((l.save key record).getD l)
    cases saved : l.save key record with
    | none => exact sorted
    | some next => exact sorted.save fine saved
  | many records =>
    change Ledger.Sorted ((l.importRecords records).getD l)
    cases taken : l.importRecords records with
    | none => exact sorted
    | some next => exact sorted.importEntries fine taken

theorem Ledger.sorted_taking {submissions : List Submission}
    (fine : ∀ x ∈ submissions, x.Sorted) : (Ledger.taking submissions).Sorted := by
  have onward (l : Ledger) (sorted : l.Sorted) :
      Ledger.Sorted (submissions.foldl Submission.toLedger l) := by
    induction submissions generalizing l with
    | nil => exact sorted
    | cons x submissions ih =>
      obtain ⟨first, rest⟩ := List.forall_mem_cons.mp fine
      exact ih rest _ (Submission.sorted_toLedger sorted first)
  exact onward [] nofun

end Sorting

end PathAudit
