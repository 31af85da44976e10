import PathAudit.Text.Basic
import Mathlib.Data.List.Basic
import Mathlib.Data.List.TakeWhile

/-! What the cutting of a text leaves out: every cut says where its result stands in the text. -/
namespace PathAudit.Text

section Patterns
variable {pattern s before after : List Char}

theorem splitFirst_cut (found : splitFirst pattern s = some (before, after)) :
    s = before ++ (pattern ++ after) := by
  induction s generalizing before with
  | nil =>
    simp only [splitFirst, List.isEmpty_iff] at found
    split at found
    next empty =>
      obtain ⟨rfl, rfl⟩ := Prod.mk.inj (Option.some.inj found)
      rw [empty]
      rfl
    · contradiction
  | cons c s ih =>
    simp only [splitFirst] at found
    split at found
    next here =>
      obtain ⟨rfl, rfl⟩ := Prod.mk.inj (Option.some.inj found)
      exact (List.isPrefixOf?_eq_some_iff_append_eq.mp here).symm
    next =>
      obtain ⟨⟨passed, rest⟩, later, same⟩ := Option.map_eq_some_iff.mp found
      obtain ⟨rfl, rfl⟩ := Prod.mk.inj same
      rw [ih later]
      rfl

theorem afterLast_cut (found : afterLast pattern s = some after) :
    ∃ before, s = before ++ (pattern ++ after) := by
  induction s with
  | nil =>
    simp only [afterLast, List.isEmpty_iff] at found
    split at found
    next empty =>
      obtain rfl := Option.some.inj found
      exact ⟨[], by rw [empty]; rfl⟩
    · contradiction
  | cons c s ih =>
    simp only [afterLast] at found
    split at found
    next later =>
      obtain rfl := Option.some.inj found
      obtain ⟨before, cut⟩ := ih later
      exact ⟨c :: before, by rw [cut]; rfl⟩
    next => exact ⟨[], (List.isPrefixOf?_eq_some_iff_append_eq.mp found).symm⟩

theorem afterLast_eq_none_iff : afterLast pattern s = none ↔ contains pattern s = false := by
  induction s with
  | nil => simp [afterLast, contains]
  | cons c s ih =>
    rw [contains, Bool.or_eq_false_iff, ← ih, ← List.isSome_isPrefixOf?_eq_isPrefixOf,
      Option.isSome_eq_false_iff, Option.isNone_iff_eq_none]
    cases later : afterLast pattern s with
    | none => simp [afterLast, later]
    | some after => simp [afterLast, later]

theorem splitFirst_eq_none_iff : splitFirst pattern s = none ↔ contains pattern s = false := by
  induction s with
  | nil => simp [splitFirst, contains]
  | cons c s ih =>
    rw [contains, Bool.or_eq_false_iff, ← ih, ← List.isSome_isPrefixOf?_eq_isPrefixOf,
      Option.isSome_eq_false_iff, Option.isNone_iff_eq_none, splitFirst]
    cases pattern.isPrefixOf? (c :: s) with
    | none => simp
    | some after => simp

theorem contains_iff_infix : contains pattern s = true ↔ pattern <:+: s := by
  induction s with
  | nil => simp [contains]
  | cons c s ih =>
    rw [contains, Bool.or_eq_true, List.isPrefixOf_iff_prefix, ih, List.infix_cons_iff]

theorem splitFirst_self (pattern t : List Char) :
    splitFirst pattern (pattern ++ t) = some ([], t) := by
  cases whole : pattern ++ t with
  | nil =>
    obtain ⟨rfl, rfl⟩ := List.append_eq_nil_iff.mp whole
    rfl
  | cons c s =>
    have here : pattern.isPrefixOf? (c :: s) = some t :=
      List.isPrefixOf?_eq_some_iff_append_eq.mpr whole
    rw [splitFirst, here]

end Patterns

section Barriers
variable {p c : Char} {ps : List Char}

theorem isPrefixOf?_barrier {pattern : List Char} (barrier : c ∉ pattern) (s t : List Char) :
    pattern.isPrefixOf? (s ++ c :: t) = (pattern.isPrefixOf? s).map (· ++ c :: t) := by
  induction pattern generalizing s with
  | nil => rfl
  | cons p pattern ih =>
    rw [List.mem_cons, not_or] at barrier
    cases s with
    | nil => simp [List.isPrefixOf?, Ne.symm barrier.1]
    | cons d s =>
      simp only [List.cons_append, List.isPrefixOf?, ih barrier.2 s]
      split <;> rfl

theorem contains_barrier (barrier : c ∉ p :: ps) (s t : List Char) :
    contains (p :: ps) (s ++ c :: t) = (contains (p :: ps) s || contains (p :: ps) t) := by
  have here (u : List Char) : (p :: ps).isPrefixOf (u ++ c :: t) = (p :: ps).isPrefixOf u := by
    rw [← List.isSome_isPrefixOf?_eq_isPrefixOf, ← List.isSome_isPrefixOf?_eq_isPrefixOf,
      isPrefixOf?_barrier barrier, Option.isSome_map]
  induction s with
  | nil =>
    have first : (p :: ps).isPrefixOf (c :: t) = false := here []
    simp [contains, first]
  | cons d s ih =>
    rw [List.cons_append, contains, ih, ← List.cons_append, here, contains, Bool.or_assoc]

theorem afterLast_barrier (barrier : c ∉ p :: ps) (s t : List Char) :
    afterLast (p :: ps) (s ++ c :: t) =
      (afterLast (p :: ps) t <|> (afterLast (p :: ps) s).map (· ++ c :: t)) := by
  induction s with
  | nil =>
    simp only [List.nil_append, afterLast]
    cases afterLast (p :: ps) t with
    | none => exact isPrefixOf?_barrier barrier [] t
    | some after => rfl
  | cons d s ih =>
    rw [List.cons_append, afterLast, ih, afterLast]
    cases afterLast (p :: ps) t with
    | some after => rfl
    | none =>
      cases afterLast (p :: ps) s with
      | none => exact isPrefixOf?_barrier barrier (d :: s) t
      | some after => rfl

theorem splitFirst_barrier (barrier : c ∉ p :: ps) (s t : List Char) :
    splitFirst (p :: ps) (s ++ c :: t) =
      (((splitFirst (p :: ps) s).map fun (before, after) => (before, after ++ c :: t)) <|>
        (splitFirst (p :: ps) t).map fun (before, after) => (s ++ c :: before, after)) := by
  induction s with
  | nil =>
    have first : (p :: ps).isPrefixOf? (c :: t) = none := isPrefixOf?_barrier barrier [] t
    simp only [List.nil_append, splitFirst, first]
    rfl
  | cons d s ih =>
    have first := isPrefixOf?_barrier barrier (d :: s) t
    rw [List.cons_append] at first ⊢
    rw [splitFirst, first, ih, splitFirst]
    cases (p :: ps).isPrefixOf? (d :: s) with
    | some after => rfl
    | none =>
      cases splitFirst (p :: ps) s with
      | some cut => rfl
      | none => cases splitFirst (p :: ps) t <;> rfl

theorem contains_append_of_not_mem {s : List Char} (absent : p ∉ s) (t : List Char) :
    contains (p :: ps) (s ++ t) = contains (p :: ps) t := by
  induction s with
  | nil => rfl
  | cons d s ih =>
    rw [List.mem_cons, not_or] at absent
    rw [List.cons_append, contains, ih absent.2]
    simp [absent.1]

theorem mem_of_contains {s : List Char} (found : contains (p :: ps) s = true) : p ∈ s := by
  by_contra absent
  have gone : contains (p :: ps) (s ++ []) = contains (p :: ps) [] :=
    contains_append_of_not_mem absent []
  rw [List.append_nil, found] at gone
  contradiction

theorem afterLast_append (once : p ∉ ps) (before : List Char) {after : List Char}
    (absent : contains (p :: ps) after = false) :
    afterLast (p :: ps) (before ++ (p :: ps ++ after)) = some after := by
  induction before with
  | nil =>
    have later : afterLast (p :: ps) (ps ++ after) = none := by
      rw [afterLast_eq_none_iff, contains_append_of_not_mem once, absent]
    rw [List.nil_append, List.cons_append, afterLast, later]
    exact List.isPrefixOf?_eq_some_iff_append_eq.mpr rfl
  | cons b before ih => rw [List.cons_append, afterLast, ih]

end Barriers

theorem throughLast_tail {c : Char} (s : List Char) {tail : List Char} (absent : c ∉ tail) :
    throughLast c (s ++ tail) = throughLast c s := by
  have passed : ∀ d ∈ tail.reverse, (d != c) = true := by
    intro d member
    rw [bne_iff_ne]
    rintro rfl
    exact absent (List.mem_reverse.mp member)
  simp only [throughLast, List.reverse_append, List.dropWhile_append_of_pos passed]

theorem throughLast_append {c : Char} (before : List Char) {after : List Char} (none : c ∉ after) :
    throughLast c (before ++ c :: after) = some (before ++ [c]) := by
  rw [← List.singleton_append, ← List.append_assoc, throughLast_tail _ none]
  simp [throughLast]

theorem throughLast_cut {c : Char} {s kept : List Char} (found : throughLast c s = some kept) :
    ∃ most after, kept = most ++ [c] ∧ s = kept ++ after := by
  have whole : s.reverse.takeWhile (· != c) ++ s.reverse.dropWhile (· != c) = s.reverse :=
    List.takeWhile_append_dropWhile
  have stop := List.head?_dropWhile_not (· != c) s.reverse
  unfold throughLast at found
  generalize s.reverse.dropWhile (· != c) = ending at found whole stop
  cases ending with
  | nil => contradiction
  | cons last rest =>
    obtain rfl := Option.some.inj found
    obtain rfl : last = c := by simpa using stop
    refine ⟨rest.reverse, (s.reverse.takeWhile (· != last)).reverse, List.reverse_cons, ?_⟩
    rw [← List.reverse_append, whole, List.reverse_reverse]

theorem trimStart_cut (s : List Char) :
    ∃ blank, (∀ c ∈ blank, isBlank c = true) ∧ s = blank ++ trimStart s :=
  ⟨s.takeWhile isBlank, List.all_eq_true.mp List.all_takeWhile,
    List.takeWhile_append_dropWhile.symm⟩

theorem head?_trimStart (s : List Char) : ∀ c ∈ (trimStart s).head?, isBlank c = false := by
  intro c first
  have other := List.head?_dropWhile_not isBlank s
  rw [trimStart, Option.mem_def] at first
  rwa [first] at other

theorem trimEnd_cut (s : List Char) : ∃ blank, s = trimEnd s ++ blank := by
  refine ⟨(s.reverse.takeWhile isBlank).reverse, ?_⟩
  rw [trimEnd, ← List.reverse_append, List.takeWhile_append_dropWhile, List.reverse_reverse]

theorem trimEnd_cons {c : Char} (solid : isBlank c = false) (s : List Char) :
    ∃ kept, trimEnd (c :: s) = c :: kept := by
  unfold trimEnd
  rw [List.reverse_cons, List.dropWhile_append]
  split
  · exact ⟨[], by simp [solid]⟩
  · exact ⟨(s.reverse.dropWhile isBlank).reverse, by simp⟩

theorem trimEnd_append {s blank : List Char} (blanks : ∀ c ∈ blank, isBlank c = true)
    (solid : ∀ c ∈ s.getLast?, isBlank c = false) : trimEnd (s ++ blank) = s := by
  have passed : ∀ c ∈ blank.reverse, isBlank c = true := fun c member =>
    blanks c (List.mem_reverse.mp member)
  unfold trimEnd
  rw [List.reverse_append, List.dropWhile_append_of_pos passed]
  cases ending : s.reverse with
  | nil => simpa using ending.symm
  | cons c rest =>
    have last : isBlank c = false := solid c (by rw [← List.head?_reverse, ending]; rfl)
    rw [List.dropWhile_cons, last, if_neg Bool.false_ne_true, ← ending, List.reverse_reverse]

section Lines

theorem splitOn_of_not_mem {sep : Char} {s : List Char} (absent : sep ∉ s) :
    splitOn sep s = [s] := by
  induction s with
  | nil => rfl
  | cons c s ih =>
    rw [List.mem_cons, not_or] at absent
    simp [splitOn, ih absent.2, Ne.symm absent.1]

theorem splitOn_append {sep : Char} {line : List Char} (absent : sep ∉ line) (rest : List Char) :
    splitOn sep (line ++ sep :: rest) = line :: splitOn sep rest := by
  induction line with
  | nil => simp [splitOn]
  | cons c line ih =>
    rw [List.mem_cons, not_or] at absent
    simp [splitOn, ih absent.2, Ne.symm absent.1]

theorem splitOn_append_last {sep : Char} {last : List Char} (absent : sep ∉ last)
    (s : List Char) : splitOn sep (s ++ sep :: last) = splitOn sep s ++ [last] := by
  induction s with
  | nil => simp [splitOn, splitOn_of_not_mem absent]
  | cons c s ih =>
    rw [List.cons_append, splitOn, ih, splitOn]
    split
    · rfl
    · cases pieces : splitOn sep s with
      | nil => exact absurd pieces (splitOn_ne_nil sep s)
      | cons piece more => rfl

theorem not_mem_of_mem_splitOn {sep : Char} {s piece : List Char}
    (member : piece ∈ splitOn sep s) : sep ∉ piece := by
  induction s generalizing piece with
  | nil =>
    obtain rfl := List.mem_singleton.mp member
    exact List.not_mem_nil
  | cons c s ih =>
    rw [splitOn] at member
    split at member
    next =>
      rcases List.mem_cons.mp member with rfl | later
      · exact List.not_mem_nil
      · exact ih later
    next other =>
      cases pieces : splitOn sep s with
      | nil => exact absurd pieces (splitOn_ne_nil sep s)
      | cons first more =>
        rw [pieces] at ih member
        rcases List.mem_cons.mp member with rfl | later
        · rw [List.mem_cons, not_or]
          exact ⟨Ne.symm other, ih List.mem_cons_self⟩
        · exact ih (List.mem_cons_of_mem first later)

theorem flatten_splitOn (sep : Char) (s : List Char) :
    (splitOn sep s).flatten = s.filter (· != sep) := by
  induction s with
  | nil => rfl
  | cons c s ih =>
    rw [splitOn]
    split
    next same => simp [same, ih]
    next other =>
      cases pieces : splitOn sep s with
      | nil => exact absurd pieces (splitOn_ne_nil sep s)
      | cons first more =>
        rw [pieces] at ih
        simp [other, ← ih]

theorem lines_of_not_mem {c : Char} {s : List Char} (single : '\n' ∉ c :: s) :
    lines (c :: s) = [c :: s] := by
  simp [lines, splitOn_of_not_mem single]

theorem lines_append {line : List Char} (single : '\n' ∉ line) (rest : List Char) :
    lines (line ++ '\n' :: rest) = withoutReturn line :: lines rest := by
  have some : splitOn '\n' rest ≠ [] := splitOn_ne_nil '\n' rest
  simp only [lines, splitOn_append single, List.dropLast_cons_of_ne_nil some, List.map_cons,
    List.getLast?_cons_of_ne_nil some]
  split <;> rfl

theorem withoutReturn_cons {c : Char} (solid : isBlank c = false) (line : List Char) :
    ∃ kept, withoutReturn (c :: line) = c :: kept ∧ (line = kept ∨ line = kept ++ ['\r']) := by
  unfold withoutReturn
  split
  next rest same =>
    have whole : c :: line = rest.reverse ++ ['\r'] := by
      rw [← List.reverse_cons, ← same, List.reverse_reverse]
    cases kept : rest.reverse with
    | nil =>
      rw [kept] at whole
      obtain ⟨rfl, -⟩ := List.cons.inj whole
      exact absurd solid (by decide)
    | cons b kept' =>
      rw [kept] at whole
      obtain ⟨rfl, rfl⟩ := List.cons.inj whole
      exact ⟨kept', rfl, .inr rfl⟩
  · exact ⟨line, rfl, .inl rfl⟩

theorem join_cons (line : List Char) (lines : List (List Char)) :
    ∃ tail, join ['\n'] (line :: lines) = line ++ tail ∧
      (tail = [] ∨ ∃ more, tail = '\n' :: more) := by
  cases lines with
  | nil => exact ⟨[], by simp [join], .inl rfl⟩
  | cons next lines => exact ⟨_, by simp only [join, List.append_assoc]; rfl, .inr ⟨_, rfl⟩⟩

theorem join_cons_of_ne_nil (sep line : List Char) {lines : List (List Char)} (more : lines ≠ []) :
    join sep (line :: lines) = line ++ sep ++ join sep lines := by
  cases lines with
  | nil => contradiction
  | cons next lines => rfl

theorem withoutReturn_of_not_mem {line : List Char} (absent : '\r' ∉ line) :
    withoutReturn line = line := by
  unfold withoutReturn
  split
  next rest same =>
    have member : '\r' ∈ line.reverse := by
      rw [same]
      exact List.mem_cons_self
    exact absurd (List.mem_reverse.mp member) absent
  · rfl

theorem join_append_last (sep last : List Char) {lines : List (List Char)} (some : lines ≠ []) :
    join sep (lines ++ [last]) = join sep lines ++ sep ++ last := by
  induction lines with
  | nil => contradiction
  | cons line lines ih =>
    cases lines with
    | nil => rfl
    | cons next lines =>
      rw [List.cons_append, join_cons_of_ne_nil sep line (by simp), ih (by simp),
        join_cons_of_ne_nil sep line (by simp)]
      simp only [List.append_assoc]

theorem lines_join {rows : List (List Char)}
    (single : ∀ row ∈ rows, '\n' ∉ row ∧ '\r' ∉ row) (last : ∀ row ∈ rows.getLast?, row ≠ []) :
    lines (join ['\n'] rows) = rows := by
  induction rows with
  | nil => rfl
  | cons row rows ih =>
    obtain ⟨⟨unbroken, unreturned⟩, others⟩ := List.forall_mem_cons.mp single
    cases rows with
    | nil =>
      obtain ⟨c, s, rfl⟩ := List.exists_cons_of_ne_nil (last row rfl)
      exact lines_of_not_mem unbroken
    | cons next rows =>
      have onward := ih others (by simpa [List.getLast?_cons_cons] using last)
      rw [join_cons_of_ne_nil _ _ (List.cons_ne_nil next rows), List.append_assoc,
        List.singleton_append, lines_append unbroken, withoutReturn_of_not_mem unreturned, onward]

end Lines

end PathAudit.Text
