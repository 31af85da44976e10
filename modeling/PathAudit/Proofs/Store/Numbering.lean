import PathAudit.Store.Basic
import Mathlib.Data.List.Induction
import Mathlib.Order.Lattice

/-! Cells that hold texts and whole numbers. Two texts are equal as cells when they are equal, the
greatest of increasing numbers is the last, and the number after it is the one that follows, as long
as a cell can hold it. -/
namespace PathAudit

namespace Cell

@[simp] theorem before_text (a b : String) : (Cell.text a).before (.text b) = decide (a < b) := rfl

@[simp] theorem before_int (a b : Int) : (Cell.int a).before (.int b) = decide (a < b) := rfl

private theorem equals_of_held (a b : Cell) (left : a ≠ .null) (right : b ≠ .null) :
    a.equals b = (!a.before b && !b.before a) := by
  rw [equals, bne_iff_ne.mpr left, bne_iff_ne.mpr right, Bool.true_and, Bool.true_and]

@[simp] theorem equals_text (a b : String) : (Cell.text a).equals (.text b) = decide (a = b) := by
  have total : (¬a < b ∧ ¬b < a) ↔ a = b := by
    constructor
    · rintro ⟨notBelow, notAbove⟩
      exact String.le_antisymm (String.not_lt.mp notAbove) (String.not_lt.mp notBelow)
    · rintro rfl
      exact ⟨String.lt_irrefl a, String.lt_irrefl a⟩
  rw [equals_of_held (.text a) (.text b) nofun nofun, Bool.eq_iff_iff, decide_eq_true_iff, ← total]
  simp only [before_text, Bool.and_eq_true, Bool.not_eq_true', decide_eq_false_iff_not]

theorem equals_text_iff (c : Cell) (t : String) : c.equals (.text t) = true ↔ c = .text t := by
  cases c with
  | text s => simp
  | null => simp [equals]
  | int n => simp [equals, before, rank]
  | real x => simp [equals, before, rank]
  | blob bytes => simp [equals, before, rank]

@[simp] theorem equals_int (a b : Int) : (Cell.int a).equals (.int b) = decide (a = b) := by
  have total : (¬a < b ∧ ¬b < a) ↔ a = b := by omega
  rw [equals_of_held (.int a) (.int b) nofun nofun, Bool.eq_iff_iff, decide_eq_true_iff, ← total]
  simp only [before_int, Bool.and_eq_true, Bool.not_eq_true', decide_eq_false_iff_not]

theorem greatest?_ints {numbers : List Int} (increasing : numbers.Pairwise (· < ·)) :
    greatest? (numbers.map .int) = numbers.getLast?.map .int := by
  induction numbers using List.reverseRecOn with
  | nil => rfl
  | append_singleton numbers n ih =>
    obtain ⟨earlier, -, below⟩ := List.pairwise_append.mp increasing
    have last := ih earlier
    unfold greatest? at last ⊢
    rw [List.map_append, List.foldl_append, last, List.getLast?_concat]
    cases found : numbers.getLast? with
    | none => rfl
    | some m =>
      have smaller : m < n := below m (List.mem_of_getLast? found) n List.mem_cons_self
      simp [smaller]

theorem map_sortBy {α β : Type} (f : α → β) {before : α → α → Bool} {early : β → β → Bool}
    {rows : List α} (same : ∀ a ∈ rows, ∀ b ∈ rows, before a b = early (f a) (f b)) :
    (sortBy before rows).map f = sortBy early (rows.map f) :=
  List.map_mergeSort fun a left b right => congrArg not (same b right a left)

theorem pairwise_sortBy {α β : Type} [LinearOrder β] (f : α → β) {before : α → α → Bool}
    {rows : List α} (same : ∀ a ∈ rows, ∀ b ∈ rows, before a b = decide (f a < f b)) :
    (sortBy before rows).Pairwise fun a b => f a ≤ f b := by
  have mapped : (sortBy before rows).map f = sortBy (fun a b => decide (a < b)) (rows.map f) :=
    map_sortBy f same
  refine List.pairwise_map.mp ?_
  rw [mapped]
  refine (List.pairwise_mergeSort ?_ ?_ (rows.map f)).imp ?_
  · intro a b c
    simp only [Bool.not_eq_true', decide_eq_false_iff_not, not_lt]
    exact le_trans
  · intro a b
    simp only [Bool.or_eq_true, Bool.not_eq_true', decide_eq_false_iff_not, not_lt]
    exact le_total a b
  · intro a b ordered
    simpa only [Bool.not_eq_true', decide_eq_false_iff_not, not_lt] using ordered

end Cell

namespace Store

theorem mapM_eq_ok {α β : Type} {read : α → Except StoreError β} {shown : α → β} {rows : List α}
    (reads : ∀ row ∈ rows, read row = .ok (shown row)) : rows.mapM read = .ok (rows.map shown) := by
  induction rows with
  | nil => rfl
  | cons row rows ih =>
    obtain ⟨first, rest⟩ := List.forall_mem_cons.mp reads
    rw [List.mapM_cons, first, ih rest]
    rfl

theorem nextNumber_ints {numbers : List Int} (increasing : numbers.Pairwise (· < ·))
    (column : String) :
    nextNumber column (numbers.map .int) =
      ((Cell.ofInt (numbers.getLast?.getD 0 + 1)).readInt 0
        ("COALESCE(MAX(" ++ column ++ "), 0) + 1")).mapError .ofColumn := by
  unfold nextNumber
  rw [Cell.greatest?_ints increasing]
  cases numbers.getLast? with
  | none => rfl
  | some n => rfl

theorem nextNumber_eq_ok_iff {numbers : List Int} (increasing : numbers.Pairwise (· < ·))
    (column : String) (n : Int) :
    nextNumber column (numbers.map .int) = .ok n ↔
      n = numbers.getLast?.getD 0 + 1 ∧ Cell.fitsInteger n = true := by
  rw [nextNumber_ints increasing]
  generalize numbers.getLast?.getD 0 + 1 = next
  unfold Cell.ofInt
  split
  next fits =>
    simp only [Cell.readInt, Except.mapError, Except.ok.injEq]
    constructor
    · rintro rfl
      exact ⟨rfl, fits⟩
    · rintro ⟨rfl, -⟩
      rfl
  next beyond =>
    simp only [Cell.readInt, Except.mapError, reduceCtorEq, false_iff]
    rintro ⟨rfl, fits⟩
    exact beyond fits

theorem lt_next {numbers : List Int} (increasing : numbers.Pairwise (· < ·)) {m : Int}
    (member : m ∈ numbers) : m < numbers.getLast?.getD 0 + 1 := by
  induction numbers using List.reverseRecOn with
  | nil => contradiction
  | append_singleton numbers n ih =>
    obtain ⟨-, -, below⟩ := List.pairwise_append.mp increasing
    rw [List.getLast?_concat, Option.getD_some]
    rcases List.mem_append.mp member with early | late
    · exact Int.lt_add_one_of_le (Int.le_of_lt (below m early n List.mem_cons_self))
    · rw [List.mem_singleton.mp late]
      exact Int.lt_succ n

theorem pairwise_next {numbers : List Int} (increasing : numbers.Pairwise (· < ·)) :
    (numbers ++ [numbers.getLast?.getD 0 + 1]).Pairwise (· < ·) := by
  refine List.pairwise_append.mpr ⟨increasing, List.pairwise_singleton _ _, ?_⟩
  intro m early n late
  rw [List.mem_singleton.mp late]
  exact lt_next increasing early

end Store

end PathAudit
