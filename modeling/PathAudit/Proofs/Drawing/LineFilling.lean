import PathAudit.Drawing.Wrap
import PathAudit.Proofs.Text.Cutting
import Mathlib.Data.List.Chain

/-! What the breaking of a long line keeps and how well it fills. The rows have the words of the
line, whole and in their order. A row is wider than it may be only if it cannot be broken, and it is
closed only where the next word would not have fitted. Only the number of blanks between two words
is lost. -/
namespace PathAudit.Text

def wordsOf (line : List Char) : List (List Char) := (splitOn ' ' line).filter (!·.isEmpty)

def firstWord (line : List Char) : List Char := line.takeWhile (· != ' ')

structure Wrapped (width : Nat) (line : List Char) (rows : List (List Char)) : Prop where
  letters : rows.flatten.filter (· != ' ') = line.filter (· != ' ')
  words : rows.flatMap wordsOf = wordsOf line
  fits : ∀ row ∈ rows, row.length ≤ width ∨ ' ' ∉ row
  filled : rows.IsChain fun row next => width < row.length + 1 + (firstWord next).length
  whole : line.length ≤ width → rows = [line]

section Words
variable {line word : List Char}

theorem flatten_wordsOf (line : List Char) : (wordsOf line).flatten = line.filter (· != ' ') := by
  rw [wordsOf, ← flatten_splitOn]
  generalize splitOn ' ' line = pieces
  induction pieces with
  | nil => rfl
  | cons piece pieces ih => cases piece <;> simp [ih]

theorem wordsOf_single (single : ' ' ∉ word) : wordsOf word = [word].filter (!·.isEmpty) := by
  rw [wordsOf, splitOn_of_not_mem single]

theorem wordsOf_append (line : List Char) (single : ' ' ∉ word) :
    wordsOf (line ++ ' ' :: word) = wordsOf line ++ [word].filter (!·.isEmpty) := by
  rw [wordsOf, splitOn_append_last single, List.filter_append, ← wordsOf]

theorem firstWord_single (single : ' ' ∉ word) : firstWord word = word := by
  apply List.takeWhile_eq_self_iff.mpr
  intro c member
  rw [bne_iff_ne]
  rintro rfl
  exact single member

theorem firstWord_append (line word : List Char) :
    firstWord (line ++ ' ' :: word) = firstWord line := by
  induction line with
  | nil => rfl
  | cons c line ih =>
    unfold firstWord at ih
    simp only [firstWord, List.cons_append, List.takeWhile_cons, ih]

theorem letters_of_words {rows : List (List Char)} (words : rows.flatMap wordsOf = wordsOf line) :
    rows.flatten.filter (· != ' ') = line.filter (· != ' ') := by
  have row : List.filter (· != ' ') = fun row => (wordsOf row).flatten := by
    funext row
    exact (flatten_wordsOf row).symm
  calc rows.flatten.filter (· != ' ')
      = (rows.map fun row => (wordsOf row).flatten).flatten := by rw [List.filter_flatten, row]
    _ = (rows.flatMap wordsOf).flatten := by
      rw [List.flatMap, List.flatten_flatten, List.map_map]
      rfl
    _ = line.filter (· != ' ') := by rw [words, flatten_wordsOf]

end Words

section Filling
variable (width : Nat) {current : List Char} {pieces : List (List Char)}

theorem wordsOf_fillLines (single : ∀ word ∈ pieces, ' ' ∉ word) :
    (fillLines width current pieces).flatMap wordsOf =
      wordsOf current ++ pieces.filter (!·.isEmpty) := by
  induction pieces generalizing current with
  | nil =>
    rw [fillLines]
    split
    next empty =>
      rw [List.isEmpty_iff.mp empty]
      rfl
    next => simp
  | cons word pieces ih =>
    obtain ⟨single, others⟩ := List.forall_mem_cons.mp single
    have parted : (word :: pieces).filter (!·.isEmpty) =
        [word].filter (!·.isEmpty) ++ pieces.filter (!·.isEmpty) :=
      List.filter_append [word] pieces
    rw [parted, ← List.append_assoc, fillLines]
    split
    next empty =>
      rw [ih others, wordsOf_single single, List.isEmpty_iff.mp empty]
      rfl
    next =>
      split
      next => rw [List.flatMap_cons, ih others, wordsOf_single single, List.append_assoc]
      next => rw [ih others, wordsOf_append current single]

theorem fits_fillLines (fits : current.length ≤ width ∨ ' ' ∉ current)
    (single : ∀ word ∈ pieces, ' ' ∉ word) :
    ∀ row ∈ fillLines width current pieces, row.length ≤ width ∨ ' ' ∉ row := by
  induction pieces generalizing current with
  | nil =>
    intro row member
    rw [fillLines] at member
    split at member
    next => contradiction
    next =>
      obtain rfl := List.mem_singleton.mp member
      exact fits
  | cons word pieces ih =>
    obtain ⟨single, others⟩ := List.forall_mem_cons.mp single
    intro row member
    rw [fillLines] at member
    split at member
    next => exact ih (.inr single) others row member
    next =>
      split at member
      next =>
        rcases List.mem_cons.mp member with rfl | later
        · exact fits
        · exact ih (.inr single) others row later
      next room =>
        apply ih _ others row member
        left
        rw [List.length_append, List.length_cons]
        omega

theorem firstWord_fillLines (some : current ≠ []) :
    ∀ row ∈ (fillLines width current pieces).head?, firstWord row = firstWord current := by
  induction pieces generalizing current with
  | nil => simp [fillLines, some]
  | cons word pieces ih =>
    intro row first
    rw [fillLines, if_neg (by simpa using some)] at first
    split at first
    next =>
      obtain rfl := Option.some.inj first
      rfl
    next =>
      rw [← firstWord_append current word]
      exact ih (by simp) row first

theorem filled_fillLines (single : ∀ word ∈ pieces, ' ' ∉ word) :
    (fillLines width current pieces).IsChain fun row next =>
      width < row.length + 1 + (firstWord next).length := by
  induction pieces generalizing current with
  | nil =>
    rw [fillLines]
    split
    · exact .nil
    · exact .singleton _
  | cons word pieces ih =>
    obtain ⟨single, others⟩ := List.forall_mem_cons.mp single
    rw [fillLines]
    split
    next => exact ih others
    next =>
      split
      next full =>
        -- The next row begins with the word that did not fit, unless that word is empty: then the
        -- row before has no room for a blank.
        refine List.isChain_cons.mpr ⟨?_, ih others⟩
        intro next first
        cases word with
        | nil =>
          rw [List.length_nil] at full
          omega
        | cons c word =>
          rw [firstWord_fillLines width (List.cons_ne_nil c word) next first,
            firstWord_single single]
          exact full
      next => exact ih others

end Filling

/-- The rows have the letters and the words of the line, in their order. A row wider than the width
is one word; a row is closed only where the next word would not fit; and a line that fits is left as
it is. -/
theorem wrapped_wrap (width : Nat) (line : List Char) : Wrapped width line (wrap width line) := by
  have single : ∀ word ∈ splitOn ' ' line, ' ' ∉ word := fun _ => not_mem_of_mem_splitOn
  rw [wrap]
  split
  next short =>
    exact ⟨by simp, by simp, by simp [short], .singleton line, fun _ => rfl⟩
  next long =>
    have words : (fillLines width [] (splitOn ' ' line)).flatMap wordsOf = wordsOf line :=
      wordsOf_fillLines width single
    exact ⟨letters_of_words words, words, fits_fillLines width (by simp) single,
      filled_fillLines width single, fun short => absurd short long⟩

example : wrap 7 "ab  cd overlong-word e".toList =
    ["ab  cd".toList, "overlong-word".toList, "e".toList] := by decide

end PathAudit.Text
