import PathAudit.Proofs.Store.Views

/-! Saving in a store of any content that keeps to its columns, however its rows came about. A
record that is saved becomes the last revision of its key and is read as it was saved; nothing else
about the records changes. In particular a record with a conclusion takes its key off the list of
what is pending, and leaves the rest of that list as it is. -/
namespace PathAudit

theorem Cell.greatest?_of_mem {numbers : List Int} {m : Int} (member : m ∈ numbers) :
    ∃ n ∈ numbers, (∀ k ∈ numbers, k ≤ n) ∧ greatest? (numbers.map .int) = some (.int n) := by
  induction numbers using List.reverseRecOn generalizing m with
  | nil => contradiction
  | append_singleton numbers last ih =>
    cases numbers with
    | nil => exact ⟨last, List.mem_singleton_self _, by simp, rfl⟩
    | cons first others =>
      obtain ⟨n, inside, greatest, found⟩ := ih List.mem_cons_self
      unfold greatest? at found ⊢
      rw [List.map_append, List.foldl_append, found]
      by_cases below : n < last
      · refine ⟨last, by simp, ?_, by simp [below]⟩
        intro k listed
        rcases List.mem_append.mp listed with early | late
        · exact (greatest k early).trans (Int.le_of_lt below)
        · rw [List.mem_singleton.mp late]
      · refine ⟨n, List.mem_append_left _ inside, ?_, by simp [below]⟩
        intro k listed
        rcases List.mem_append.mp listed with early | late
        · exact greatest k early
        · rw [List.mem_singleton.mp late]
          exact Int.not_lt.mp below

namespace RecordRow

def name (row : RecordRow) : String :=
  match row.key with
  | .text key => key
  | _ => ""

def number (row : RecordRow) : Int :=
  match row.revision with
  | .int n => n
  | _ => 0

def edges (row : RecordRow) : Int :=
  match row.edgeCount with
  | .int n => n
  | _ => 0

def ofRecord (key : String) (revision : Int) (r : PathRecord) : RecordRow :=
  ⟨.text key, .int revision, .int r.callGraph.length, .int (if r.isConcluded then 1 else 0),
    .text r.toJson.compact⟩

end RecordRow

namespace Store
variable {s after : Store}

/-- The rows have the types of their columns, and no key has a number twice. -/
structure Regular (s : Store) : Prop where
  key : ∀ row ∈ s.records, row.key = .text row.name
  revision : ∀ row ∈ s.records, row.revision = .int row.number
  edgeCount : ∀ row ∈ s.records, row.edgeCount = .int row.edges
  unique : s.records.Pairwise fun a b => a.name = b.name → a.number ≠ b.number

section Congruence
variable {a b : Store} (same : a.records = b.records)
include same

theorem Regular.of_records (regular : b.Regular) : a.Regular := by
  obtain ⟨key, revision, edgeCount, unique⟩ := regular
  rw [← same] at key revision edgeCount unique
  exact ⟨key, revision, edgeCount, unique⟩

theorem revisionsOf_of_records (key : String) : a.revisionsOf key = b.revisionsOf key := by
  rw [revisionsOf, same, revisionsOf]

theorem pending_of_records : a.pending = b.pending := by
  rw [pending, pendingRows, latestRows, same, pending, pendingRows, latestRows]

end Congruence

theorem get_of_revisionsOf {a b : Store} {key : String}
    (same : a.revisionsOf key = b.revisionsOf key) : a.get key = b.get key := by
  rw [get, latestRow?, same, get, latestRow?]

section Latest
variable (regular : s.Regular)
include regular

theorem Regular.mem_revisionsOf (key : String) (row : RecordRow) :
    row ∈ s.revisionsOf key ↔ row ∈ s.records ∧ row.name = key := by
  rw [revisionsOf, List.mem_filter]
  refine and_congr_right fun member => ?_
  rw [regular.key row member, Cell.equals_text, decide_eq_true_iff]

theorem Regular.revision_revisionsOf (key : String) :
    (s.revisionsOf key).map (·.revision) = ((s.revisionsOf key).map (·.number)).map .int := by
  rw [List.map_map]
  refine List.map_congr_left fun row member => ?_
  exact regular.revision row ((regular.mem_revisionsOf key row).mp member).1

theorem Regular.mem_latestRows (row : RecordRow) :
    row ∈ s.latestRows ↔
      row ∈ s.records ∧ ∀ other ∈ s.records, other.name = row.name → other.number ≤ row.number := by
  rw [latestRows, List.mem_filter]
  refine and_congr_right fun member => ?_
  have own : row ∈ s.revisionsOf row.name := (regular.mem_revisionsOf _ _).mpr ⟨member, rfl⟩
  obtain ⟨n, inside, greatest, found⟩ := Cell.greatest?_of_mem (List.mem_map_of_mem own)
  have shown :
      (s.records.filter fun other => other.key.equals row.key) = s.revisionsOf row.name := by
    rw [revisionsOf, regular.key row member]
  rw [shown, regular.revision_revisionsOf, found, regular.revision row member]
  simp only [Cell.equals_int, decide_eq_true_iff]
  constructor
  · rintro rfl other listed same
    exact greatest _ (List.mem_map_of_mem ((regular.mem_revisionsOf _ _).mpr ⟨listed, same⟩))
  · intro above
    obtain ⟨other, listed, rfl⟩ := List.mem_map.mp inside
    obtain ⟨stored, same⟩ := (regular.mem_revisionsOf _ _).mp listed
    exact Int.le_antisymm (greatest _ (List.mem_map_of_mem own)) (above other stored same)

theorem Regular.nodup_latestRows : (s.latestRows.map (·.name)).Nodup := by
  have apart := regular.unique.sublist (List.filter_sublist : s.latestRows.Sublist s.records)
  refine List.pairwise_map.mpr (apart.imp_of_mem ?_)
  intro a b left right distinct same
  obtain ⟨known, greatest⟩ := (regular.mem_latestRows a).mp left
  obtain ⟨listed, least⟩ := (regular.mem_latestRows b).mp right
  exact distinct same (Int.le_antisymm (least a known same) (greatest b listed same.symm))

end Latest

section Pending

theorem pendingRows_perm (s : Store) :
    s.pendingRows.Perm (s.latestRows.filter fun row => row.concluded.equals (.int 0)) :=
  List.mergeSort_perm _ _

private def rank (row : RecordRow) : Int ×ₗ String := toLex (row.edges, row.name)

variable (regular : s.Regular)
include regular

theorem Regular.nodup_pendingRows : (s.pendingRows.map (·.name)).Nodup := by
  refine (s.pendingRows_perm.map _).nodup_iff.mpr (regular.nodup_latestRows.sublist ?_)
  exact List.filter_sublist.map _

private theorem Regular.pairwise_pendingRows :
    s.pendingRows.Pairwise fun a b => rank a < rank b := by
  have ordered : s.pendingRows.Pairwise fun a b => rank a ≤ rank b := by
    refine Cell.pairwise_sortBy rank fun a left b right => ?_
    have known (row : RecordRow) (member : row ∈ s.latestRows.filter fun row =>
        row.concluded.equals (.int 0)) : row ∈ s.records :=
      ((regular.mem_latestRows row).mp (List.mem_filter.mp member).1).1
    rw [fewerEdges, regular.edgeCount a (known a left), regular.edgeCount b (known b right),
      regular.key a (known a left), regular.key b (known b right), Bool.eq_iff_iff,
      decide_eq_true_iff, rank, rank, Prod.Lex.toLex_lt_toLex]
    simp only [Cell.before_int, Cell.before_text, Bool.or_eq_true, Bool.and_eq_true,
      Bool.not_eq_true', decide_eq_true_eq, decide_eq_false_iff_not, Int.not_lt]
    constructor
    · rintro (less | ⟨least, earlier⟩)
      · exact Or.inl less
      · rcases Int.lt_or_eq_of_le least with less | same
        · exact Or.inl less
        · exact Or.inr ⟨same, earlier⟩
    · rintro (less | ⟨same, earlier⟩)
      · exact Or.inl less
      · exact Or.inr ⟨Int.le_of_eq same, earlier⟩
  refine List.Pairwise.imp₂ ?_ ordered (List.pairwise_map.mp regular.nodup_pendingRows)
  intro a b below apart
  refine lt_of_le_of_ne below fun same => apart ?_
  exact (Prod.mk.inj (toLex.injective same)).2

end Pending

section Reading
variable {rows : List RecordRow} {left : List (String × PathRecord)}

theorem readText_eq_ok {c : Cell} {index : Nat} {column text : String}
    (read : c.readText index column = .ok text) : c = .text text := by
  cases c with
  | text held => exact congrArg Cell.text (Except.ok.inj read)
  | _ => contradiction

theorem sorted_of_parseRecord {text : String} {r : PathRecord} (parsed : parseRecord text = .ok r) :
    r.Sorted := by
  obtain ⟨record, decoded, whole⟩ := bind_eq_ok (mapError_eq_ok parsed)
  split at whole
  next => contradiction
  next => exact Except.ok.inj whole ▸ PathRecord.increasing_of_decoder decoded

theorem readRow_eq_ok {row : RecordRow} {key : String} {r : PathRecord}
    (read : readRow row = .ok (key, r)) : row.name = key ∧ r.Sorted := by
  obtain ⟨name, held, read⟩ := bind_eq_ok read
  obtain ⟨text, -, read⟩ := bind_eq_ok read
  obtain ⟨record, parsed, ⟨⟩⟩ := bind_eq_ok read
  refine ⟨?_, sorted_of_parseRecord parsed⟩
  rw [RecordRow.name, readText_eq_ok (mapError_eq_ok held)]

theorem mapM_readRow_eq_ok (read : rows.mapM readRow = .ok left) :
    rows.map (·.name) = left.map (·.1) ∧ ∀ entry ∈ left, entry.2.Sorted := by
  induction rows generalizing left with
  | nil =>
    cases read
    exact ⟨rfl, List.forall_mem_nil _⟩
  | cons row rows ih =>
    rw [List.mapM_cons] at read
    obtain ⟨⟨key, r⟩, first, read⟩ := bind_eq_ok read
    obtain ⟨others, rest, ⟨⟩⟩ := bind_eq_ok read
    obtain ⟨named, sorted⟩ := readRow_eq_ok first
    obtain ⟨names, fine⟩ := ih rest
    exact ⟨congrArg₂ List.cons named names, List.forall_mem_cons.mpr ⟨sorted, fine⟩⟩

theorem mapM_readRow_filter (read : rows.mapM readRow = .ok left) (key : String) :
    (rows.filter fun row => row.name ≠ key).mapM readRow =
      .ok (left.filter fun entry => entry.1 ≠ key) := by
  induction rows generalizing left with
  | nil =>
    cases read
    rfl
  | cons row rows ih =>
    rw [List.mapM_cons] at read
    obtain ⟨⟨name, r⟩, first, read⟩ := bind_eq_ok read
    obtain ⟨others, rest, ⟨⟩⟩ := bind_eq_ok read
    rw [List.filter_cons, List.filter_cons, (readRow_eq_ok first).1]
    split
    · rw [List.mapM_cons, first, ih rest]
      rfl
    · exact ih rest

end Reading

section Saved
variable (regular : s.Regular) {key : String} {r : PathRecord} {n : Int}

theorem lt_of_nextNumber {numbers : List Int} {column : String}
    (next : nextNumber column (numbers.map .int) = .ok n) : ∀ m ∈ numbers, m < n := by
  intro m member
  obtain ⟨greatest, -, above, found⟩ := Cell.greatest?_of_mem member
  have read := mapError_eq_ok next
  rw [found, Option.getD_some] at read
  change (Cell.ofInt (greatest + 1)).readInt 0 _ = .ok n at read
  unfold Cell.ofInt at read
  split at read
  next =>
    cases read
    exact Int.lt_add_one_of_le (above m member)
  next => contradiction

theorem insertRecord_eq_ok {row : RecordRow} (inserted : s.insertRecord row = .ok after) :
    after.records = s.records ++ [row] := by
  obtain ⟨-, -, inserted⟩ := bind_eq_ok inserted
  split at inserted
  next => contradiction
  next =>
    cases inserted
    rfl

private theorem head?_of_greatest {α : Type} (f : α → Int) {rows sorted : List α} {last : α}
    (same : sorted.Perm (rows ++ [last])) (descending : sorted.Pairwise fun a b => f b ≤ f a)
    (below : ∀ a ∈ rows, f a < f last) : sorted.head? = some last := by
  have listed : last ∈ sorted := same.mem_iff.mpr (List.mem_append_right _ List.mem_cons_self)
  cases sorted with
  | nil => contradiction
  | cons first others =>
    rcases List.mem_append.mp (same.mem_iff.mp List.mem_cons_self) with early | late
    · have less := below first early
      rcases List.mem_cons.mp listed with rfl | later
      · exact absurd less (Int.lt_irrefl _)
      · have above := (List.pairwise_cons.mp descending).1 last later
        omega
    · rw [List.head?_cons, List.mem_singleton.mp late]

include regular

theorem Regular.save_eq_ok (saved : s.save key r = .ok (after, n)) :
    after.records = s.records ++ [.ofRecord key n r] ∧
      ∀ row ∈ s.records, row.name = key → row.number < n := by
  obtain ⟨revision, next, saved⟩ := bind_eq_ok saved
  obtain ⟨stored, inserted, ⟨⟩⟩ := bind_eq_ok saved
  rw [regular.revision_revisionsOf] at next
  refine ⟨insertRecord_eq_ok inserted, fun row member same => ?_⟩
  refine lt_of_nextNumber next _ (List.mem_map_of_mem ?_)
  exact (regular.mem_revisionsOf key row).mpr ⟨member, same⟩

theorem Regular.save (saved : s.save key r = .ok (after, n)) : after.Regular := by
  obtain ⟨grown, below⟩ := regular.save_eq_ok saved
  refine ⟨?_, ?_, ?_, ?_⟩
  · rw [grown]
    exact List.forall_mem_append.mpr ⟨regular.key, by simp [RecordRow.ofRecord, RecordRow.name]⟩
  · rw [grown]
    exact List.forall_mem_append.mpr
      ⟨regular.revision, by simp [RecordRow.ofRecord, RecordRow.number]⟩
  · rw [grown]
    exact List.forall_mem_append.mpr
      ⟨regular.edgeCount, by simp [RecordRow.ofRecord, RecordRow.edges]⟩
  · rw [grown]
    refine List.pairwise_append.mpr ⟨regular.unique, List.pairwise_singleton _ _, ?_⟩
    intro row member added last same
    rw [List.mem_singleton.mp last] at same ⊢
    exact Int.ne_of_lt (below row member same)

theorem Regular.revisionsOf_save (saved : s.save key r = .ok (after, n)) :
    after.revisionsOf key = s.revisionsOf key ++ [.ofRecord key n r] := by
  rw [revisionsOf, (regular.save_eq_ok saved).1, List.filter_append, revisionsOf]
  simp [RecordRow.ofRecord]

theorem Regular.revisionsOf_save_of_ne (saved : s.save key r = .ok (after, n)) {other : String}
    (apart : other ≠ key) : after.revisionsOf other = s.revisionsOf other := by
  rw [revisionsOf, (regular.save_eq_ok saved).1, List.filter_append, revisionsOf]
  simp [RecordRow.ofRecord, Ne.symm apart]

theorem Regular.latestRow?_save (saved : s.save key r = .ok (after, n)) :
    after.latestRow? key = some (.ofRecord key n r) := by
  have grown := regular.revisionsOf_save saved
  have onward := regular.save saved
  have listed (row : RecordRow) (member : row ∈ after.revisionsOf key) :
      row.revision = .int row.number :=
    onward.revision row ((onward.mem_revisionsOf key row).mp member).1
  refine head?_of_greatest RecordRow.number ((List.mergeSort_perm _ _).trans (.of_eq grown)) ?_ ?_
  · refine Cell.pairwise_sortBy (fun row : RecordRow => OrderDual.toDual row.number) ?_
    intro a left b right
    rw [listed a left, listed b right]
    rfl
  · intro row member
    obtain ⟨known, own⟩ := (regular.mem_revisionsOf key row).mp member
    exact (regular.save_eq_ok saved).2 row known own

theorem Regular.get_save (saved : s.save key r = .ok (after, n)) (sorted : r.Sorted) :
    after.get key = .ok (some r) := by
  rw [Store.get, regular.latestRow?_save saved]
  simp only [RecordRow.ofRecord, Cell.readText, Except.mapError, parseRecord,
    PathRecord.ofText_toJson sorted, bind, Except.bind]
  rfl

theorem Regular.mem_latestRows_save (saved : s.save key r = .ok (after, n)) (row : RecordRow) :
    row ∈ after.latestRows ↔
      row = .ofRecord key n r ∨ row ∈ s.latestRows ∧ row.name ≠ key := by
  obtain ⟨grown, below⟩ := regular.save_eq_ok saved
  rw [(regular.save saved).mem_latestRows, regular.mem_latestRows, grown,
    List.forall_mem_append, List.forall_mem_singleton, List.mem_append, List.mem_singleton]
  have named : (RecordRow.ofRecord key n r).name = key := rfl
  have numbered : (RecordRow.ofRecord key n r).number = n := rfl
  constructor
  · rintro ⟨known | rfl, greatest, last⟩
    · refine Or.inr ⟨⟨known, greatest⟩, fun own => ?_⟩
      have above := last (named.trans own.symm)
      have less := below row known own
      omega
    · exact Or.inl rfl
  · rintro (rfl | ⟨⟨known, greatest⟩, apart⟩)
    · refine ⟨Or.inr rfl, fun other member same => ?_, fun _ => Int.le_refl _⟩
      exact Int.le_of_lt (below other member (same.trans named))
    · refine ⟨Or.inl known, greatest, fun same => ?_⟩
      exact absurd (same.symm.trans named) apart

theorem Regular.pendingRows_save (saved : s.save key r = .ok (after, n))
    (concluded : r.isConcluded = true) :
    after.pendingRows = s.pendingRows.filter fun row => row.name ≠ key := by
  have onward := regular.save saved
  have ordered := regular.pairwise_pendingRows.sublist
    (List.filter_sublist (p := fun row => decide (row.name ≠ key)))
  have strict {rows : List RecordRow} (pairwise : rows.Pairwise fun a b => rank a < rank b) :
      rows.Nodup := pairwise.imp fun less => ne_of_apply_ne rank (ne_of_lt less)
  refine List.Perm.eq_of_pairwise ?_ onward.pairwise_pendingRows ordered ?_
  · intro a b _ _ before later
    exact absurd before (lt_asymm later)
  · refine (List.perm_ext_iff_of_nodup (strict onward.pairwise_pendingRows) (strict ordered)).mpr ?_
    intro row
    rw [after.pendingRows_perm.mem_iff, List.mem_filter, regular.mem_latestRows_save saved,
      List.mem_filter, s.pendingRows_perm.mem_iff, List.mem_filter, decide_eq_true_iff]
    have closed : (RecordRow.ofRecord key n r).concluded.equals (.int 0) = false := by
      simp [RecordRow.ofRecord, concluded]
    constructor
    · rintro ⟨rfl | ⟨latest, apart⟩, isOpen⟩
      · rw [closed] at isOpen
        contradiction
      · exact ⟨⟨latest, isOpen⟩, apart⟩
    · rintro ⟨⟨latest, isOpen⟩, apart⟩
      exact ⟨Or.inr ⟨latest, apart⟩, isOpen⟩

theorem Regular.pending_save (saved : s.save key r = .ok (after, n))
    (concluded : r.isConcluded = true) {left : List (String × PathRecord)}
    (listed : s.pending = .ok left) :
    after.pending = .ok (left.filter fun entry => entry.1 ≠ key) := by
  rw [Store.pending, regular.pendingRows_save saved concluded]
  exact mapM_readRow_filter listed key

end Saved

section Listed
variable {left : List (String × PathRecord)} (listed : s.pending = .ok left)
include listed

theorem sorted_of_pending : ∀ entry ∈ left, entry.2.Sorted := (mapM_readRow_eq_ok listed).2

theorem Regular.nodup_pending (regular : s.Regular) : (left.map (·.1)).Nodup := by
  rw [← (mapM_readRow_eq_ok listed).1]
  exact regular.nodup_pendingRows

end Listed

section Revisions
variable {a b : Store}

theorem save_of_revisionsOf {key : String} (same : a.revisionsOf key = b.revisionsOf key)
    (r : PathRecord) :
    (∃ e, a.save key r = .error e ∧ b.save key r = .error e) ∨
      ∃ n later other, a.save key r = .ok (later, n) ∧ b.save key r = .ok (other, n) := by
  have used (s : Store) (revision : Cell) :
      (s.records.any fun row => row.key.equals (.text key) && row.revision.equals revision) =
        (s.revisionsOf key).any fun row => row.revision.equals revision := by
    rw [revisionsOf, List.any_filter]
  unfold save
  rw [same]
  cases nextNumber "revision" ((b.revisionsOf key).map (·.revision)) with
  | error e => exact Or.inl ⟨e, rfl, rfl⟩
  | ok n =>
    simp only [insertRecord, bind, Except.bind, used, same]
    cases requireAll "path_records" _ with
    | error e => exact Or.inl ⟨e, rfl, rfl⟩
    | ok _ =>
      dsimp only
      cases (b.revisionsOf key).any fun row => row.revision.equals (.int n) with
      | true => exact Or.inl ⟨_, rfl, rfl⟩
      | false => exact Or.inr ⟨n, _, _, rfl, rfl⟩

theorem Regular.mem_latestRows_iff (regular : a.Regular) (row : RecordRow) :
    row ∈ a.latestRows ↔ row ∈ a.revisionsOf row.name ∧
      ∀ other ∈ a.revisionsOf row.name, other.number ≤ row.number := by
  rw [regular.mem_latestRows, regular.mem_revisionsOf]
  simp only [regular.mem_revisionsOf, and_true, and_imp]

theorem Regular.increasing_rowsByKey (regular : a.Regular) :
    (rowsByKey a.latestRows).Pairwise fun x y => x.name < y.name := by
  have sorted : (rowsByKey a.latestRows).Perm a.latestRows := List.mergeSort_perm _ _
  have distinct := (sorted.map RecordRow.name).nodup_iff.mpr regular.nodup_latestRows
  have ordered : (rowsByKey a.latestRows).Pairwise fun x y => x.name ≤ y.name := by
    refine Cell.pairwise_sortBy RecordRow.name fun x left y right => ?_
    rw [regular.key x ((regular.mem_latestRows x).mp left).1,
      regular.key y ((regular.mem_latestRows y).mp right).1]
    rfl
  exact List.Pairwise.imp₂ (fun _ _ => lt_of_le_of_ne) ordered (List.pairwise_map.mp distinct)

/-- The latest records are a matter of the revisions of each key, not of the order of the rows. -/
theorem Regular.latest_of_revisionsOf (first : a.Regular) (second : b.Regular)
    (same : ∀ key, a.revisionsOf key = b.revisionsOf key) : a.latest = b.latest := by
  have left := first.increasing_rowsByKey
  have right := second.increasing_rowsByKey
  have strict {rows : List RecordRow} (increasing : rows.Pairwise fun x y => x.name < y.name) :
      rows.Nodup := increasing.imp fun less => ne_of_apply_ne RecordRow.name (ne_of_lt less)
  have members (s : Store) (row : RecordRow) : row ∈ rowsByKey s.latestRows ↔ row ∈ s.latestRows :=
    (List.mergeSort_perm _ _).mem_iff
  have rows : rowsByKey a.latestRows = rowsByKey b.latestRows := by
    refine List.Perm.eq_of_pairwise ?_ left right ?_
    · intro x y _ _ before later
      exact absurd before (lt_asymm later)
    · refine (List.perm_ext_iff_of_nodup (strict left) (strict right)).mpr fun row => ?_
      rw [members, members, first.mem_latestRows_iff, second.mem_latestRows_iff, same]
  rw [latest, rows, latest]

end Revisions

theorem Holds.regular {l : Ledger} (holds : s.Holds l) : s.Regular := by
  have typed (row : RecordRow) (member : row ∈ s.records) : row.key = .text row.name ∧
      row.revision = .int row.number ∧ row.edgeCount = .int row.edges := by
    rw [holds] at member
    obtain ⟨key, n, r, rfl, -⟩ := Ledger.mem_rows member
    exact ⟨rfl, rfl, rfl⟩
  refine ⟨fun row member => (typed row member).1, fun row member => (typed row member).2.1,
    fun row member => (typed row member).2.2, ?_⟩
  rw [holds]
  clear holds typed
  induction l with
  | nil => exact .nil
  | cons entry l ih =>
    obtain ⟨key, r⟩ := entry
    refine List.pairwise_append.mpr ⟨ih, List.pairwise_singleton _ _, ?_⟩
    intro row early added late same
    obtain ⟨k, n, x, rfl, -, within⟩ := Ledger.mem_rows early
    obtain rfl := List.mem_singleton.mp late
    obtain rfl : k = key := same
    change (n : Int) ≠ (Ledger.revisions l k + 1 : Nat)
    omega

end Store

end PathAudit
