import PathAudit.Proofs.Store.Ledger
import PathAudit.Proofs.Text.ByteOrder
import Mathlib.Data.Prod.Lex

/-! The views of the records. Each finds the latest revision of a key in a way of its own: by the
first row in a descending order, by the greatest number among the rows of the key, by the flag and
the count that stand beside the text. All of them show what the ledger says. -/
namespace PathAudit

namespace Ledger
variable (l : Ledger)

/-- The last record of each key, in the order in which they were stored. -/
def latest : Ledger → List (String × PathRecord)
  | [] => []
  | (key, r) :: l => (latest l).filter (fun entry => entry.1 ≠ key) ++ [(key, r)]

def rowOf (entry : String × PathRecord) : RecordRow := row entry.1 (l.revisions entry.1) entry.2

theorem Sorted.of_lookup {l : Ledger} (sorted : l.Sorted) {key : String} {r : PathRecord}
    (found : l.lookup key = some r) : r.Sorted := by
  obtain ⟨later, earlier, rfl, -⟩ := List.lookup_eq_some_iff.mp found
  exact sorted (key, r) (List.mem_append_right _ List.mem_cons_self)

theorem mem_latest_iff (key : String) (r : PathRecord) :
    (key, r) ∈ latest l ↔ l.lookup key = some r := by
  induction l with
  | nil => simp [latest]
  | cons entry l ih =>
    obtain ⟨k, x⟩ := entry
    by_cases same : key = k
    · subst same
      simp [latest, eq_comm]
    · rw [latest, List.mem_append, List.mem_filter, ih, List.lookup_cons, beq_false_of_ne same]
      simp [same]

theorem nodup_latest : ((latest l).map (·.1)).Nodup := by
  induction l with
  | nil => exact .nil
  | cons entry l ih =>
    obtain ⟨key, r⟩ := entry
    rw [latest, List.map_append, List.nodup_append]
    refine ⟨ih.sublist (List.Sublist.map _ List.filter_sublist), List.nodup_singleton _, ?_⟩
    intro k early other late
    obtain ⟨entry, kept, rfl⟩ := List.mem_map.mp early
    rw [List.map_singleton, List.mem_singleton] at late
    rw [late]
    simpa using (List.mem_filter.mp kept).2

theorem mem_rows {l : Ledger} {added : RecordRow} (member : added ∈ l.rows) :
    ∃ key n r, added = row key n r ∧ 1 ≤ n ∧ n ≤ l.revisions key := by
  induction l with
  | nil => contradiction
  | cons entry l ih =>
    obtain ⟨k, x⟩ := entry
    rcases List.mem_append.mp member with early | late
    · obtain ⟨key, n, r, shown, positive, within⟩ := ih early
      refine ⟨key, n, r, shown, positive, within.trans ?_⟩
      exact (List.sublist_cons_self _ _).countP_le
    · refine ⟨k, revisions l k + 1, x, List.mem_singleton.mp late, by omega, ?_⟩
      rw [revisions_cons_self]

def isLatest (added : RecordRow) : Bool :=
  match added.key with
  | .text key => added.revision = .int (l.revisions key)
  | _ => false

theorem isLatest_row (key : String) (n : Nat) (r : PathRecord) :
    l.isLatest (row key n r) = decide (n = l.revisions key) := by
  simp [isLatest, row]

theorem filter_isLatest : l.rows.filter l.isLatest = (latest l).map l.rowOf := by
  induction l with
  | nil => rfl
  | cons entry l ih =>
    obtain ⟨key, r⟩ := entry
    have earlier : (rows l).filter (isLatest ((key, r) :: l)) =
        ((rows l).filter (isLatest l)).filter fun added => added.key ≠ .text key := by
      rw [List.filter_filter]
      refine List.filter_congr fun added member => ?_
      obtain ⟨k, n, x, rfl, -, within⟩ := mem_rows member
      rw [isLatest_row, isLatest_row]
      by_cases same : k = key
      · subst same
        rw [revisions_cons_self]
        simp [row]
        omega
      · rw [revisions_cons_of_ne l r same]
        simp [row, same]
    have kept : ((latest l).map (rowOf l)).filter (fun added => added.key ≠ .text key) =
        ((latest l).filter fun entry => entry.1 ≠ key).map (rowOf ((key, r) :: l)) := by
      have names (entry : String × PathRecord) :
          decide ((rowOf l entry).key ≠ .text key) = decide (entry.1 ≠ key) := by
        simp [rowOf, row]
      rw [List.filter_map]
      refine (congrArg _ (List.filter_congr fun entry _ => names entry)).trans ?_
      refine List.map_congr_left fun entry member => ?_
      have apart : entry.1 ≠ key := by simpa using (List.mem_filter.mp member).2
      rw [rowOf, rowOf, revisions_cons_of_ne l r apart]
    have added : [row key (revisions l key + 1) r].filter (isLatest ((key, r) :: l)) =
        [(key, r)].map (rowOf ((key, r) :: l)) := by
      simp [isLatest_row, revisions_cons_self, rowOf]
    rw [rows, List.filter_append, earlier, ih, kept, added, latest, List.map_append]

end Ledger

namespace Store
variable {s : Store} {l : Ledger}

theorem Holds.latestRows (holds : s.Holds l) : s.latestRows = l.latest.map l.rowOf := by
  rw [← l.filter_isLatest, Store.latestRows, holds]
  refine List.filter_congr fun added member => ?_
  obtain ⟨key, n, r, rfl, positive, -⟩ := Ledger.mem_rows member
  have greatest : Cell.greatest?
      ((l.rows.filter fun other => other.key.equals (Ledger.row key n r).key).map (·.revision)) =
      (Ledger.numbers (l.revisions key)).getLast?.map .int := by
    rw [← Cell.greatest?_ints (Ledger.pairwise_numbers _), ← holds.numbered key, holds.revisionsOf]
    rfl
  have last := Ledger.getLast?_numbers (l.revisions key)
  rw [greatest, l.isLatest_row]
  cases found : (Ledger.numbers (l.revisions key)).getLast? with
  | none =>
    rw [found] at last
    have none : l.revisions key = 0 := by simpa using last.symm
    simp [none]
    omega
  | some m =>
    rw [found, Option.getD_some] at last
    rw [last]
    simp [Ledger.row]

theorem Holds.get (holds : s.Holds l) (sorted : l.Sorted) (key : String) :
    s.get key = .ok (l.lookup key) := by
  rw [Store.get, holds.latestRow?]
  cases found : l.lookup key with
  | none => rfl
  | some r =>
    have fine : r.Sorted := sorted.of_lookup found
    simp only [Option.map_some, Ledger.row, Cell.readText, Except.mapError, parseRecord,
      PathRecord.ofText_toJson fine, bind, Except.bind]
    rfl

section Reading
variable {r : PathRecord} (fine : r.Sorted) (key : String) (n : Nat)
include fine

theorem readRow_row : readRow (Ledger.row key n r) = .ok (key, r) := by
  simp only [readRow, Ledger.row, Cell.readText, Except.mapError, parseRecord,
    PathRecord.ofText_toJson fine, bind, Except.bind]
  rfl

theorem statusOfRow_row :
    statusOfRow (Ledger.row key n r) = .ok ⟨key, n, r.callGraph.length, r.conclusion⟩ := by
  simp only [statusOfRow, Ledger.row, Cell.readText, Cell.readInt, Except.mapError, parseRecord,
    PathRecord.ofText_toJson fine, bind, Except.bind]
  rfl

end Reading

private theorem mapM_rows {α : Type} {read : RecordRow → Except StoreError α}
    {entries : List (String × PathRecord)} {shown : String × PathRecord → α}
    (reads : ∀ entry ∈ entries, read (l.rowOf entry) = .ok (shown entry)) :
    (entries.map l.rowOf).mapM read = .ok (entries.map shown) := by
  rw [List.mapM_map]
  exact mapM_eq_ok reads

end Store

namespace Ledger
variable (l : Ledger)

def byKey : List (String × PathRecord) := Cell.sortBy (fun a b => decide (a.1 < b.1)) l.latest

/-- Fewer edges, or as many and an earlier key. -/
def Precedes (a b : String × PathRecord) : Prop :=
  a.2.callGraph.length < b.2.callGraph.length ∨
    a.2.callGraph.length = b.2.callGraph.length ∧ Utf8.Before a.1 b.1

instance (a b : String × PathRecord) : Decidable (Precedes a b) :=
  inferInstanceAs (Decidable (_ ∨ _))

theorem precedes_iff (a b : String × PathRecord) :
    Precedes a b ↔ toLex (a.2.callGraph.length, a.1) < toLex (b.2.callGraph.length, b.1) := by
  rw [Prod.Lex.toLex_lt_toLex, Precedes, Utf8.before_iff]

theorem precedes_asymm {a b : String × PathRecord} (before : Precedes a b) : ¬Precedes b a := by
  rw [precedes_iff] at before ⊢
  exact lt_asymm before

/-- The records without a conclusion, those with fewer edges first. -/
def pending : List (String × PathRecord) :=
  Cell.sortBy (fun a b => decide (Precedes a b))
    (l.latest.filter fun entry => entry.2.conclusion = none)

theorem byKey_perm : l.byKey.Perm l.latest := List.mergeSort_perm _ _

theorem increasing_byKey : Increasing l.byKey := by
  have distinct : (l.byKey.map (·.1)).Nodup := (l.byKey_perm.map _).nodup_iff.mpr l.nodup_latest
  have ordered : l.byKey.Pairwise fun a b => a.1 ≤ b.1 :=
    Cell.pairwise_sortBy Prod.fst fun _ _ _ _ => rfl
  exact List.Pairwise.imp₂ (fun _ _ => lt_of_le_of_ne) (List.pairwise_map.mpr ordered) distinct

theorem mem_byKey_iff (key : String) (r : PathRecord) :
    (key, r) ∈ l.byKey ↔ l.lookup key = some r :=
  l.byKey_perm.mem_iff.trans (l.mem_latest_iff key r)

theorem pending_perm :
    l.pending.Perm (l.byKey.filter fun entry => entry.2.conclusion = none) :=
  (List.mergeSort_perm _ _).trans (l.byKey_perm.symm.filter _)

theorem pairwise_pending : l.pending.Pairwise Precedes := by
  have kept : (l.pending.map (·.1)).Nodup := by
    refine (l.pending_perm.map _).nodup_iff.mpr ?_
    exact ((l.byKey_perm.map _).nodup_iff.mpr l.nodup_latest).sublist
      (List.filter_sublist.map _)
  have ordered : l.pending.Pairwise fun a b =>
      toLex (a.2.callGraph.length, a.1) ≤ toLex (b.2.callGraph.length, b.1) :=
    Cell.pairwise_sortBy _ fun a _ b _ => decide_eq_decide.mpr (precedes_iff a b)
  refine List.Pairwise.imp₂ ?_ ordered (List.pairwise_map.mp kept)
  intro a b below apart
  refine (precedes_iff a b).mpr (lt_of_le_of_ne below fun same => apart ?_)
  exact (Prod.mk.inj (toLex.injective same)).2

end Ledger

namespace Store
variable {s : Store} {l : Ledger}

theorem Holds.rowsByKey (holds : s.Holds l) : rowsByKey s.latestRows = l.byKey.map l.rowOf := by
  rw [holds.latestRows, Store.rowsByKey]
  exact (Cell.map_sortBy l.rowOf fun _ _ _ _ => rfl).symm

theorem Holds.latest (holds : s.Holds l) (sorted : l.Sorted) : s.latest = .ok l.byKey := by
  have reads : ∀ entry ∈ l.byKey, readRow (l.rowOf entry) = .ok (id entry) := by
    rintro ⟨key, r⟩ member
    exact readRow_row (sorted.of_lookup ((l.mem_byKey_iff key r).mp member)) key _
  rw [Store.latest, holds.rowsByKey, mapM_rows reads, List.map_id]

theorem Holds.status (holds : s.Holds l) (sorted : l.Sorted) :
    s.status = .ok (l.byKey.map fun (key, r) =>
      ⟨key, l.revisions key, r.callGraph.length, r.conclusion⟩) := by
  rw [Store.status, holds.rowsByKey]
  refine mapM_rows ?_
  rintro ⟨key, r⟩ member
  exact statusOfRow_row (sorted.of_lookup ((l.mem_byKey_iff key r).mp member)) key _

theorem Holds.pendingRows (holds : s.Holds l) : s.pendingRows = l.pending.map l.rowOf := by
  have undecided (entry : String × PathRecord) :
      (l.rowOf entry).concluded.equals (.int 0) = decide (entry.2.conclusion = none) := by
    cases decided : entry.2.conclusion <;>
      simp [Ledger.rowOf, Ledger.row, PathRecord.isConcluded, decided]
  have fewer (a b : String × PathRecord) :
      decide (Ledger.Precedes a b) = fewerEdges (l.rowOf a) (l.rowOf b) := by
    rw [Bool.eq_iff_iff, decide_eq_true_iff, Ledger.Precedes, Utf8.before_iff]
    simp only [fewerEdges, Ledger.rowOf, Ledger.row, Cell.before_int, Cell.before_text,
      Bool.or_eq_true, Bool.and_eq_true, Bool.not_eq_true', decide_eq_true_eq,
      decide_eq_false_iff_not, Int.ofNat_lt]
    constructor
    · rintro (less | ⟨same, earlier⟩)
      · exact Or.inl less
      · exact Or.inr ⟨by omega, earlier⟩
    · rintro (less | ⟨more, earlier⟩)
      · exact Or.inl less
      · rcases Nat.lt_or_ge a.2.callGraph.length b.2.callGraph.length with less | least
        · exact Or.inl less
        · exact Or.inr ⟨by omega, earlier⟩
  rw [Store.pendingRows, holds.latestRows, List.filter_map]
  refine Eq.trans ?_ (Cell.map_sortBy l.rowOf fun a _ b _ => fewer a b).symm
  exact congrArg (fun kept => Cell.sortBy fewerEdges (kept.map l.rowOf))
    (List.filter_congr fun entry _ => undecided entry)

theorem Holds.pending (holds : s.Holds l) (sorted : l.Sorted) : s.pending = .ok l.pending := by
  have reads : ∀ entry ∈ l.pending, readRow (l.rowOf entry) = .ok (id entry) := by
    rintro ⟨key, r⟩ member
    have listed := (List.mem_filter.mp (l.pending_perm.mem_iff.mp member)).1
    exact readRow_row (sorted.of_lookup ((l.mem_byKey_iff key r).mp listed)) key _
  rw [Store.pending, holds.pendingRows, mapM_rows reads, List.map_id]

end Store

/-- Whatever is saved and imported, from an empty store on, all views of the records agree. The
revisions of a key are numbered from 1 on, and saving gives the next number. A key is looked up with
the record that was stored last under it; the list of the latest records shows each key that was
ever stored once, in the order of bytes, with that record; the overview shows the same keys with
their numbers, edges and conclusions; and those are pending whose record has no conclusion, in the
order of their edges and then of their keys. -/
theorem views_agree (submissions : List Submission) (sorted : ∀ x ∈ submissions, x.Sorted) :
    let s := Store.taking submissions
    let l := Ledger.taking submissions
    (∀ key, (s.revisionsOf key).map (·.revision) =
      (List.range (l.revisions key)).map fun n => .int (n + 1 : Nat)) ∧
    (∀ key r, l.revisions key + 1 < 2 ^ 63 → ∃ after,
      s.save key r = .ok (after, (l.revisions key + 1 : Nat)) ∧
      Store.taking (submissions ++ [.one key r]) = after ∧
      Ledger.taking (submissions ++ [.one key r]) = (key, r) :: l) ∧
    (∀ key, s.get key = .ok (l.lookup key)) ∧
    ∃ entries left, s.latest = .ok entries ∧
      (∀ key r, (key, r) ∈ entries ↔ l.lookup key = some r) ∧
      entries.Pairwise (fun a b => Utf8.Before a.1 b.1) ∧
      s.status = .ok (entries.map fun (key, r) =>
        ⟨key, l.revisions key, r.callGraph.length, r.conclusion⟩) ∧
      s.pending = .ok left ∧
      left.Perm (entries.filter fun entry => entry.2.conclusion = none) ∧
      left.Pairwise Ledger.Precedes := by
  intro s l
  have holds : s.Holds l := holds_taking submissions
  have fine : l.Sorted := Ledger.sorted_taking sorted
  refine ⟨fun key => ?_, fun key r fits => ?_, fun key => holds.get fine key, l.byKey, l.pending,
    holds.latest fine, l.mem_byKey_iff, ?_, holds.status fine, holds.pending fine, l.pending_perm,
    l.pairwise_pending⟩
  · rw [holds.numbered, Ledger.numbers, List.map_map]
    rfl
  · obtain ⟨after, saved, -⟩ := holds.save fits r
    refine ⟨after, saved, ?_, ?_⟩
    · rw [Store.taking, List.foldl_append]
      exact congrArg s.settle saved
    · rw [Ledger.taking, List.foldl_append]
      exact congrArg (Option.getD · l) (if_pos fits)
  · refine (List.pairwise_map.mp l.increasing_byKey).imp ?_
    intro a b less
    exact (Utf8.before_iff a.1 b.1).mpr less

def evaluating : PathRecord where
  entry := "main"
  sink := "eval"
  callGraph := [⟨"main", "eval", "calls"⟩]

theorem views_agree_evaluating :
    let decided : PathRecord := { evaluating with conclusion := some true }
    let submissions : List Submission := [.one "b" evaluating, .one "a" decided,
      .many ⟨[("a", evaluating), ("b", evaluating)]⟩]
    let s := Store.taking submissions
    (∀ x ∈ submissions, x.Sorted) ∧ (s.revisionsOf "b").map (·.revision) = [.int 1, .int 2] ∧
      s.get "a" = .ok (some decided) ∧ s.get "b" = .ok (some (Sinks.seed evaluating)) ∧
      ∃ left, s.pending = .ok left ∧ ("b", Sinks.seed evaluating) ∈ left ∧
        ∀ r, ("a", r) ∉ left := by
  intro decided submissions s
  have fine : evaluating.Sorted := .nil
  have sorted : ∀ x ∈ submissions, x.Sorted := by
    intro x member
    simp only [submissions, List.mem_cons, List.not_mem_nil, or_false] at member
    rcases member with rfl | rfl | rfl
    · exact fine
    · exact fine
    · intro entry inside
      simp only [List.mem_cons, List.not_mem_nil, or_false] at inside
      rcases inside with rfl | rfl
      · exact fine
      · exact fine
  have ledger : Ledger.taking submissions =
      [("b", Sinks.seed evaluating), ("a", decided), ("b", evaluating)] := rfl
  obtain ⟨numbers, -, looked, entries, left, -, listed, -, -, pending, same, -⟩ :=
    views_agree submissions sorted
  rw [ledger] at looked numbers listed
  refine ⟨sorted, numbers "b", looked "a", looked "b", left, pending, ?_, ?_⟩
  · have undecided : (Sinks.seed evaluating).conclusion = none := by
      unfold Sinks.seed
      split <;> rfl
    refine same.mem_iff.mpr (List.mem_filter.mpr ⟨(listed _ _).mpr rfl, ?_⟩)
    simpa using undecided
  · intro r member
    obtain ⟨found, undecided⟩ := List.mem_filter.mp (same.mem_iff.mp member)
    cases (listed "a" r).mp found
    contradiction

end PathAudit
