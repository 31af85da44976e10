import PathAudit.Audit.Excerpt
import PathAudit.Proofs.Text.Cutting
import Mathlib.Data.List.DropRight

/-! What an excerpt of a body leaves out. Where lines are left out at all, they are those after the
last line that calls one of the functions asked about, so no call is hidden. -/
namespace PathAudit

theorem FunctionId.lastSegment_eq_iff (f name : String) : lastSegment f = name ↔
    '.' ∉ name.toList ∧ (f = name ∨ ∃ head, f = head ++ "." ++ name) := by
  rw [lastSegment, ← String.toList_inj, String.toList_ofList]
  constructor
  · intro last
    have whole := List.takeWhile_append_dropWhile (p := (· != '.')) (l := f.toList.reverse)
    have stop := List.head?_dropWhile_not (· != '.') f.toList.reverse
    have plain : '.' ∉ name.toList := by
      rw [← last, List.mem_reverse]
      intro dot
      simpa using List.mem_takeWhile_imp dot
    refine ⟨plain, ?_⟩
    rw [List.reverse_eq_iff] at last
    rw [last] at whole
    generalize f.toList.reverse.dropWhile (· != '.') = rest at whole stop
    rw [eq_comm, List.reverse_eq_iff] at whole
    cases rest with
    | nil =>
      left
      apply String.toList_inj.mp
      simpa using whole
    | cons c rest =>
      obtain rfl : c = '.' := by simpa using stop
      refine .inr ⟨.ofList rest.reverse, String.toList_inj.mp ?_⟩
      simpa using whole
  · rintro ⟨plain, ends⟩
    have passed : ∀ c ∈ name.toList.reverse, (c != '.') = true := by
      intro c member
      rw [bne_iff_ne]
      rintro rfl
      exact plain (List.mem_reverse.mp member)
    rw [List.reverse_eq_iff]
    rcases ends with rfl | ⟨head, rfl⟩
    · exact List.takeWhile_eq_self_iff.mpr passed
    · simp [List.takeWhile_append_of_pos passed]

namespace Excerpt

/-- What is written before the parenthesis where a function is called: the full name of the sink,
the part after the last dot of another name. -/
def IsCalledAs (sink callee name : String) : Prop :=
  if callee = sink then name = sink
  else '.' ∉ name.toList ∧ (callee = name ∨ ∃ head, callee = head ++ "." ++ name)

def Calls (callees : List FunctionId) (sink : FunctionId) (line : List Char) : Prop :=
  ∃ callee ∈ callees, ∃ name, IsCalledAs sink callee name ∧ name.toList ++ ['('] <:+: line

theorem isCall_iff (callees : List FunctionId) (sink : FunctionId) (line : List Char) :
    isCall (callees.map fun callee => (callText sink callee).toList) line = true ↔
      Calls callees sink line := by
  have called (callee : FunctionId) (name : String) : IsCalledAs sink callee name ↔
      (if callee = sink then sink else callee.lastSegment) = name := by
    unfold IsCalledAs
    split
    · exact eq_comm
    · exact (FunctionId.lastSegment_eq_iff callee name).symm
  simp only [isCall, List.any_map, List.any_eq_true, Function.comp_apply, Text.contains_iff_infix,
    Calls, called, exists_eq_left', callText, String.toList_append]
  rfl

instance (callees : List FunctionId) (sink : FunctionId) (line : List Char) :
    Decidable (Calls callees sink line) :=
  decidable_of_iff _ (isCall_iff callees sink line)

theorem throughLastCall_cut (targets lines : List (List Char)) :
    (throughLastCall targets lines = [] ∧ ∀ line ∈ lines, ¬isCall targets line = true) ∨
    ∃ kept last dropped, lines = kept ++ last :: dropped ∧
      throughLastCall targets lines = kept ++ [last] ∧ isCall targets last = true ∧
      ∀ line ∈ dropped, ¬isCall targets line = true := by
  have through (lines : List (List Char)) :
      throughLastCall targets lines = lines.rdropWhile (!isCall targets ·) := rfl
  simp only [through]
  -- From the last line back, as the search goes.
  induction lines using List.reverseRecOn with
  | nil => exact .inl ⟨rfl, by simp⟩
  | append_singleton lines line ih =>
    by_cases call : isCall targets line = true
    · rw [List.rdropWhile_concat_neg _ _ _ (by simp [call])]
      exact .inr ⟨lines, line, [], rfl, rfl, call, by simp⟩
    · rw [List.rdropWhile_concat_pos _ _ _ (by simp [call])]
      rcases ih with ⟨none, uncalled⟩ | ⟨kept, last, dropped, rfl, kept_eq, called, uncalled⟩
      · refine .inl ⟨none, ?_⟩
        rw [List.forall_mem_append]
        exact ⟨uncalled, by simpa using call⟩
      · refine .inr ⟨kept, last, dropped ++ [line], by simp, kept_eq, called, ?_⟩
        rw [List.forall_mem_append]
        exact ⟨uncalled, by simpa using call⟩

/-- A body none of whose lines calls a function, or whose last line does, is its own excerpt. Of
every other body the lines through the last one that calls a function are kept, and none that is
dropped calls one. -/
theorem ofBody_hides_no_call (body : String) (callees : List FunctionId) (sink : FunctionId) :
    let lines := Text.splitOn '\n' body.toList
    let calls := Calls callees sink
    let isWhole := (∀ line ∈ lines, ¬calls line) ∨ ∃ last ∈ lines.getLast?, calls last
    (isWhole → ofBody body callees sink = body) ∧
    (¬isWhole → ∃ kept last dropped, lines = kept ++ last :: dropped ∧ dropped ≠ [] ∧
      calls last ∧ (∀ line ∈ dropped, ¬calls line) ∧
      ofBody body callees sink =
        String.ofList (Text.join ['\n'] (kept ++ [last])) ++ "\n" ++ elision) := by
  intro lines calls isWhole
  have cut := throughLastCall_cut (callees.map fun callee => (callText sink callee).toList)
    (Text.splitOn '\n' body.toList)
  simp only [isCall_iff] at cut
  rcases cut with ⟨none, uncalled⟩ | ⟨kept, last, dropped, parted, through, called, uncalled⟩
  · refine ⟨fun _ => ?_, fun partly => absurd (.inl uncalled) partly⟩
    rw [ofBody, none]
    rfl
  cases dropped with
  | nil =>
    have ends : lines.getLast? = some last := by simp [lines, parted]
    refine ⟨fun _ => ?_, fun partly => absurd (.inr ⟨last, ends, called⟩) partly⟩
    rw [ofBody, through, parted, if_pos (by simp)]
  | cons next dropped =>
    have ends : lines.getLast? = (next :: dropped).getLast? := by
      have whole : lines = (kept ++ [last]) ++ next :: dropped := by simp [lines, parted]
      rw [whole, List.getLast?_append_of_ne_nil _ (List.cons_ne_nil next dropped)]
    refine ⟨fun whole => ?_, fun _ => ?_⟩
    · rcases whole with none | ⟨ending, isLast, calling⟩
      · exact absurd called (none last (by simp [lines, parted]))
      · rw [ends] at isLast
        exact absurd calling (uncalled ending (List.mem_of_getLast? isLast))
    · refine ⟨kept, last, next :: dropped, parted, List.cons_ne_nil _ _, called, uncalled, ?_⟩
      rw [ofBody, through, parted, if_neg (by simp)]

private def loading : String := "def load(path):\n    check(path)\n\n    return path\n"

theorem ofBody_hides_no_call_loading :
    let lines := Text.splitOn '\n' loading.toList
    let calls := Calls ["app.check", "torch.load"] "torch.load"
    ofBody loading ["torch.load"] "torch.load" = loading ∧
      ¬((∀ line ∈ lines, ¬calls line) ∨ ∃ last ∈ lines.getLast?, calls last) ∧
      ofBody loading ["app.check", "torch.load"] "torch.load" =
        "def load(path):\n    check(path)\n# ..." ∧
      ∃ kept last dropped, lines = kept ++ last :: dropped ∧ calls last ∧
        ∀ line ∈ dropped, ¬calls line := by
  intro lines calls
  have whole : ofBody loading ["torch.load"] "torch.load" = loading :=
    (ofBody_hides_no_call loading ["torch.load"] "torch.load").1 (by decide)
  have partly : ¬((∀ line ∈ lines, ¬calls line) ∨ ∃ last ∈ lines.getLast?, calls last) := by
    decide
  obtain ⟨kept, last, dropped, parted, -, called, uncalled, -⟩ :=
    (ofBody_hides_no_call loading ["app.check", "torch.load"] "torch.load").2 partly
  exact ⟨whole, partly, by decide, kept, last, dropped, parted, called, uncalled⟩

end Excerpt

end PathAudit
