import PathAudit.Telemetry.LogBook
import Mathlib.Data.List.Induction
import Mathlib.Data.List.Sort
import Mathlib.Data.List.TakeWhile

/-! What a question to the log book is answered with. The newest of the rows it asks for come first
and no other row comes with them, but a part of a target is compared as a pattern: a percent sign
and an underscore in it stand for other characters, and letters count in either case. So the rows
listed are those in whose target some passage is of the form of the part. Every row whose target
holds the part as it stands is among these; the converse fails. -/
namespace PathAudit

namespace Pattern

/-- The form of a pattern: a percent sign stands for any characters, every other character for one
that it stands for. -/
inductive Matches : List Char → List Char → Prop
  | done : Matches [] []
  | any (passage : List Char) {rest text : List Char} (follows : Matches rest text) :
      Matches ('%' :: rest) (passage ++ text)
  | one {p c : Char} {rest text : List Char} (single : p ≠ '%') (stands : standsFor p c = true)
      (follows : Matches rest text) : Matches (p :: rest) (c :: text)

theorem matches_nil_iff {s : List Char} : Matches [] s ↔ s = [] := by
  constructor
  · intro formed
    cases formed
    rfl
  · rintro rfl
    exact .done

theorem matches_percent_iff {rest s : List Char} :
    Matches ('%' :: rest) s ↔ ∃ passage text, s = passage ++ text ∧ Matches rest text := by
  constructor
  · intro formed
    cases formed with
    | any passage follows => exact ⟨passage, _, rfl, follows⟩
    | one single => exact absurd rfl single
  · rintro ⟨passage, text, rfl, follows⟩
    exact .any passage follows

theorem matches_single_iff {p : Char} {rest s : List Char} (single : p ≠ '%') :
    Matches (p :: rest) s ↔
      ∃ c text, s = c :: text ∧ standsFor p c = true ∧ Matches rest text := by
  constructor
  · intro formed
    cases formed with
    | any => exact absurd rfl single
    | one _ stands follows => exact ⟨_, _, rfl, stands, follows⟩
  · rintro ⟨c, text, rfl, stands, follows⟩
    exact .one single stands follows

theorem mem_suffixes {α : Type} {s t : List α} : t ∈ suffixes s ↔ t <:+ s := by
  induction s with
  | nil => simp [suffixes]
  | cons a rest ih => rw [suffixes, List.mem_cons, ih, List.suffix_cons_iff]

theorem accepts_iff (p s : List Char) : accepts p s = true ↔ Matches p s := by
  induction p generalizing s with
  | nil => simp only [accepts, List.isEmpty_iff, matches_nil_iff]
  | cons p rest ih =>
    simp only [accepts]
    split
    · next any =>
      subst any
      simp only [List.any_eq_true, mem_suffixes, ih, matches_percent_iff]
      constructor
      · rintro ⟨text, ⟨passage, rfl⟩, follows⟩
        exact ⟨passage, text, rfl, follows⟩
      · rintro ⟨passage, text, rfl, follows⟩
        exact ⟨text, List.suffix_append passage text, follows⟩
    · next single =>
      rw [matches_single_iff single]
      cases s with
      | nil => simp
      | cons c text => simp [ih]

theorem Matches.append {p q a b : List Char} (front : Matches p a) (back : Matches q b) :
    Matches (p ++ q) (a ++ b) := by
  induction front with
  | done => exact back
  | any passage _ ih =>
    rw [List.append_assoc]
    exact .any passage ih
  | one single stands _ ih => exact .one single stands ih

theorem matches_append_iff {p q s : List Char} :
    Matches (p ++ q) s ↔ ∃ a b, s = a ++ b ∧ Matches p a ∧ Matches q b := by
  constructor
  · intro formed
    induction p generalizing s with
    | nil => exact ⟨[], s, rfl, .done, formed⟩
    | cons p rest ih =>
      cases formed with
      | any passage follows =>
        obtain ⟨a, b, rfl, front, back⟩ := ih follows
        exact ⟨passage ++ a, b, (List.append_assoc ..).symm, .any passage front, back⟩
      | one single stands follows =>
        obtain ⟨a, b, rfl, front, back⟩ := ih follows
        exact ⟨_ :: a, b, rfl, .one single stands front, back⟩
  · rintro ⟨a, b, rfl, front, back⟩
    exact front.append back

theorem matches_self (s : List Char) : Matches s s := by
  induction s with
  | nil => exact .done
  | cons c rest ih =>
    by_cases any : c = '%'
    · subst any
      exact .any ['%'] ih
    · exact .one any (by simp [standsFor]) ih

theorem matches_plain_iff {p s : List Char} (plain : ∀ c ∈ p, c ≠ '%' ∧ c ≠ '_') :
    Matches p s ↔ p.map Char.toLower = s.map Char.toLower := by
  induction p generalizing s with
  | nil => rw [matches_nil_iff, List.map_nil, List.nil_eq, List.map_eq_nil_iff]
  | cons p rest ih =>
    obtain ⟨⟨notPercent, notUnderscore⟩, plain⟩ := List.forall_mem_cons.mp plain
    have stands (c : Char) : standsFor p c = true ↔ p.toLower = c.toLower := by
      simp [standsFor, notUnderscore]
    rw [matches_single_iff notPercent]
    cases s with
    | nil => simp
    | cons c text => simp [stands, ih plain]

theorem upToNull_eq_self {s : List Char} (free : '\x00' ∉ s) : upToNull s = s :=
  List.takeWhile_eq_self_iff.mpr fun _ inside =>
    bne_iff_ne.mpr fun null => free (null ▸ inside)

theorem matches_around_iff {inner s : List Char} (free : '\x00' ∉ inner) :
    Matches (around inner) s ↔ ∃ passage, passage <:+: s ∧ Matches inner passage := by
  have whole : around inner = '%' :: (inner ++ ['%']) := upToNull_eq_self (by simpa using free)
  have last (after : List Char) : Matches ['%'] after := by simpa using Matches.any after .done
  rw [whole, matches_percent_iff]
  constructor
  · rintro ⟨before, text, rfl, follows⟩
    obtain ⟨passage, after, rfl, formed, -⟩ := matches_append_iff.mp follows
    exact ⟨passage, ⟨before, after, List.append_assoc ..⟩, formed⟩
  · rintro ⟨passage, ⟨before, after, rfl⟩, formed⟩
    exact ⟨before, passage ++ after, List.append_assoc .., formed.append (last after)⟩

def Resembles (part target : String) : Prop :=
  Matches (around part.toList) (upToNull target.toList)

def Contains (part target : String) : Prop := part.toList <:+: target.toList

def NullFree (s : String) : Prop := '\x00' ∉ s.toList

def Small (s : String) : Prop := ∀ c ∈ s.toList, ¬ c.isUpper

/-- A text in which no character stands for another one, letters in their other case apart. -/
def Literal (s : String) : Prop := ∀ c ∈ s.toList, c ≠ '%' ∧ c ≠ '_'

theorem resembles_iff {part target : String} (free : NullFree part) (whole : NullFree target) :
    Resembles part target ↔
      ∃ passage, passage <:+: target.toList ∧ Matches part.toList passage := by
  rw [Resembles, upToNull_eq_self whole, matches_around_iff free]

theorem Contains.resembles {part target : String} (contains : Contains part target)
    (free : NullFree part) (whole : NullFree target) : Resembles part target :=
  (resembles_iff free whole).mpr ⟨part.toList, contains, matches_self part.toList⟩

theorem map_toLower_of_small {s : List Char} (small : ∀ c ∈ s, ¬ c.isUpper) :
    s.map Char.toLower = s := by
  have kept : ∀ c ∈ s, c.toLower = c := fun c inside =>
    dif_neg fun upper => small c inside (decide_eq_true upper)
  exact (List.map_congr_left kept).trans (List.map_id s)

theorem Resembles.contains {part target : String} (resembles : Resembles part target)
    (free : NullFree part) (literal : Literal part) (small : Small part)
    (whole : NullFree target) (lower : Small target) : Contains part target := by
  obtain ⟨passage, inside, formed⟩ := (resembles_iff free whole).mp resembles
  have same : part.toList.map Char.toLower = passage.map Char.toLower :=
    (matches_plain_iff literal).mp formed
  rw [map_toLower_of_small small,
    map_toLower_of_small fun c listed => lower c (inside.subset listed)] at same
  rwa [Contains, same]

end Pattern

namespace LogBook

/-- What is in the book after these notices, each with its time and the spans around it. -/
def kept (events : List (String × List (Option String) × Notice)) : LogBook :=
  events.foldl (fun book (timestamp, spans, notice) => record timestamp spans notice book) {}

def Numbered (book : LogBook) : Prop := book.rows.map (·.id) = List.range' 1 book.rows.length

theorem Numbered.record {book : LogBook} (numbered : book.Numbered) (timestamp : String)
    (spans : List (Option String)) (notice : Notice) :
    (record timestamp spans notice book).Numbered := by
  rw [LogBook.record]
  split
  · rw [Numbered, List.map_append, numbered, List.length_append, List.length_singleton,
      List.range'_concat]
    simp [Nat.add_comm]
  · exact numbered

theorem numbered_kept (events : List (String × List (Option String) × Notice)) :
    (kept events).Numbered := by
  induction events using List.reverseRecOn with
  | nil => rfl
  | append_singleton events event ih =>
    rw [kept, List.foldl_append]
    exact ih.record event.1 event.2.1 event.2.2

theorem Numbered.increasing {book : LogBook} (numbered : book.Numbered) :
    book.rows.Pairwise fun older newer => older.id < newer.id := by
  refine List.pairwise_map.mp ?_
  rw [numbered]
  exact List.pairwise_lt_range'

/-- The newest of the wanted rows, newest first: at most so many, and a wanted row is left out only
where that many newer ones are listed. -/
structure Answers (wanted : LogRow → Prop) (most : Nat) (rows answer : List LogRow) : Prop where
  newestFirst : answer.Pairwise fun newer older => older.id < newer.id
  listed : ∀ r ∈ answer, r ∈ rows ∧ wanted r
  few : answer.length ≤ most
  rest : ∀ r ∈ rows, wanted r → r ∉ answer →
    answer.length = most ∧ ∀ newer ∈ answer, r.id < newer.id

namespace Answers

variable {wanted : LogRow → Prop} {most : Nat} {rows answer : List LogRow}

theorem take {accepts : LogRow → Bool} (same : ∀ r, accepts r = true ↔ wanted r)
    (increasing : rows.Pairwise fun older newer => older.id < newer.id) (most : Nat) :
    Answers wanted most rows ((rows.reverse.filter accepts).take most) := by
  have newest : (rows.reverse.filter accepts).Pairwise fun newer older => older.id < newer.id :=
    (List.pairwise_reverse.mpr increasing).filter _
  have accepted (r : LogRow) : r ∈ rows.reverse.filter accepts ↔ r ∈ rows ∧ wanted r := by
    rw [List.mem_filter, List.mem_reverse, same]
  generalize rows.reverse.filter accepts = found at newest accepted
  have split : found.take most ++ found.drop most = found := List.take_append_drop most found
  refine ⟨newest.take, ?_, List.length_take_le most found, ?_⟩
  · intro r listed
    exact (accepted r).mp (List.mem_of_mem_take listed)
  · intro r inside isWanted unlisted
    have beyond : r ∈ found.drop most := by
      have isFound := (accepted r).mpr ⟨inside, isWanted⟩
      rw [← split, List.mem_append] at isFound
      exact isFound.resolve_left unlisted
    have long : most < found.length := by
      have := List.length_pos_of_mem beyond
      rw [List.length_drop] at this
      omega
    refine ⟨List.length_take_of_le long.le, fun newer listed => ?_⟩
    rw [← split] at newest
    exact (List.pairwise_append.mp newest).2.2 newer listed r beyond

theorem nodup (answers : Answers wanted most rows answer) : answer.Nodup := by
  refine answers.newestFirst.imp ?_
  rintro newer older before rfl
  exact Nat.lt_irrefl _ before

theorem subset {other : List LogRow} (answers : Answers wanted most rows answer)
    (others : Answers wanted most rows other) : answer ⊆ other := by
  intro r listed
  by_contra unlisted
  obtain ⟨inside, isWanted⟩ := answers.listed r listed
  obtain ⟨full, above⟩ := others.rest r inside isWanted unlisted
  -- a row that only the other answer has would be older than `r`, and `r` is older than all there
  have included : other ⊆ answer := by
    intro s otherwise
    by_contra missing
    obtain ⟨insideToo, wantedToo⟩ := others.listed s otherwise
    have below := (answers.rest s insideToo wantedToo missing).2 r listed
    exact absurd (above s otherwise) (by omega)
  have distinct : (r :: other).Nodup := List.nodup_cons.mpr ⟨unlisted, others.nodup⟩
  have within : r :: other ⊆ answer := List.cons_subset.mpr ⟨listed, included⟩
  have longer := (List.subperm_of_subset distinct within).length_le
  have few := answers.few
  rw [List.length_cons] at longer
  omega

theorem unique {other : List LogRow} (answers : Answers wanted most rows answer)
    (others : Answers wanted most rows other) : answer = other := by
  have same : answer.Perm other :=
    (List.perm_ext_iff_of_nodup answers.nodup others.nodup).mpr fun _ =>
      ⟨fun listed => answers.subset others listed, fun listed => others.subset answers listed⟩
  refine same.eq_of_pairwise ?_ answers.newestFirst others.newestFirst
  intro r s _ _ before after
  omega

theorem narrow {closer : LogRow → Prop} (answers : Answers wanted most rows answer)
    (within : ∀ r ∈ rows, closer r → wanted r) (close : ∀ r ∈ answer, closer r) :
    Answers closer most rows answer where
  newestFirst := answers.newestFirst
  listed r listed := ⟨(answers.listed r listed).1, close r listed⟩
  few := answers.few
  rest r inside isCloser := answers.rest r inside (within r inside isCloser)

end Answers

end LogBook

namespace LogQuery

/-- What a query asks of a row, where a part of a target is compared in the given way. -/
structure Admits (found : String → String → Prop) (q : LogQuery) (r : LogRow) : Prop where
  level : ∀ asked ∈ q.level, LogBook.upper asked = r.level.name
  target : ∀ part ∈ q.target, found part r.target
  pathKey : ∀ key ∈ q.pathKey, r.pathKey = some key
  since : ∀ start ∈ q.since, start ≤ r.timestamp

theorem accepts_iff (q : LogQuery) (r : LogRow) :
    q.accepts r = true ↔ q.Admits Pattern.Resembles r := by
  have target (part : String) :
      Pattern.decides (Pattern.around part.toList) (Pattern.upToNull r.target.toList) = true ↔
        Pattern.Resembles part r.target := by
    rw [Pattern.decides_eq_accepts, Pattern.accepts_iff, Pattern.Resembles]
  simp only [accepts, Bool.and_eq_true, Option.all_eq_true, target, beq_iff_eq, decide_eq_true_iff]
  constructor
  · rintro ⟨⟨⟨level, target⟩, pathKey⟩, since⟩
    exact ⟨level, target, pathKey, since⟩
  · rintro ⟨level, target, pathKey, since⟩
    exact ⟨⟨⟨level, target⟩, pathKey⟩, since⟩

/-- The answer to a query, whatever was told before: the newest of the rows in whose target some
passage is of the form of the part, and no other list. It is the answer for the part as it stands
exactly when every row listed holds the part, and always when nothing in the part stands for other
characters and neither it nor a target has a capital. -/
theorem run_answers (events : List (String × List (Option String) × Notice)) (q : LogQuery) :
    let rows := (LogBook.kept events).rows
    let most := q.limit.getD 100
    let answer := q.run (LogBook.kept events)
    (∀ listed, LogBook.Answers (q.Admits Pattern.Resembles) most rows listed ↔ listed = answer) ∧
    ((∀ part ∈ q.target, Pattern.NullFree part ∧ ∀ r ∈ rows, Pattern.NullFree r.target) →
      (LogBook.Answers (q.Admits Pattern.Contains) most rows answer ↔
        ∀ r ∈ answer, ∀ part ∈ q.target, Pattern.Contains part r.target) ∧
      ((∀ part ∈ q.target, Pattern.Literal part ∧ Pattern.Small part ∧
          ∀ r ∈ rows, Pattern.Small r.target) →
        LogBook.Answers (q.Admits Pattern.Contains) most rows answer)) := by
  intro rows most answer
  have answers : LogBook.Answers (q.Admits Pattern.Resembles) most rows answer :=
    .take q.accepts_iff (LogBook.numbered_kept events).increasing most
  refine ⟨fun listed => ⟨fun others => others.unique answers, ?_⟩, fun free => ?_⟩
  · rintro rfl
    exact answers
  have closer : LogBook.Answers (q.Admits Pattern.Contains) most rows answer ↔
      ∀ r ∈ answer, ∀ part ∈ q.target, Pattern.Contains part r.target := by
    constructor
    · intro contained r listed
      exact (contained.listed r listed).2.target
    · intro contained
      refine answers.narrow ?_ ?_
      · intro r inside admits
        refine { admits with target := fun part given => ?_ }
        obtain ⟨nullFree, whole⟩ := free part given
        exact (admits.target part given).resembles nullFree (whole r inside)
      · intro r listed
        exact { (answers.listed r listed).2 with target := contained r listed }
  refine ⟨closer, fun plain => closer.mpr fun r listed part given => ?_⟩
  obtain ⟨inside, admits⟩ := answers.listed r listed
  obtain ⟨nullFree, whole⟩ := free part given
  obtain ⟨literal, small, lower⟩ := plain part given
  exact (admits.target part given).contains nullFree literal small (whole r inside)
    (lower r inside)

private def noticed (level : Level) (target : String) :
    String × List (Option String) × Notice :=
  ("2026-03-01T11:00:00Z", [some "a---eval"], ⟨level, target, "m", none, []⟩)

private def told : List (String × List (Option String) × Notice) :=
  [noticed .warn "aegis_llm::reliable", noticed .error "aegis_engine::batch"]

theorem run_answers_reliable :
    let q : LogQuery := { target := some "reliable" }
    let rows := (LogBook.kept told).rows
    (∀ part ∈ q.target, Pattern.NullFree part ∧ ∀ r ∈ rows, Pattern.NullFree r.target) ∧
    (∀ part ∈ q.target, Pattern.Literal part ∧ Pattern.Small part ∧
      ∀ r ∈ rows, Pattern.Small r.target) ∧
    LogBook.Answers (q.Admits Pattern.Contains) 100 rows (q.run (LogBook.kept told)) := by
  intro q rows
  have targets (p : String → Prop) (first : p "aegis_llm::reliable")
      (second : p "aegis_engine::batch") : ∀ r ∈ rows, p r.target := by
    simpa [rows, LogBook.kept, told, noticed, LogBook.record, Level.isKept] using ⟨first, second⟩
  have free : ∀ part ∈ q.target,
      Pattern.NullFree part ∧ ∀ r ∈ rows, Pattern.NullFree r.target := by
    rintro _ ⟨rfl⟩
    refine ⟨?_, targets _ ?_ ?_⟩ <;> simp [Pattern.NullFree]
  have plain : ∀ part ∈ q.target, Pattern.Literal part ∧ Pattern.Small part ∧
      ∀ r ∈ rows, Pattern.Small r.target := by
    rintro _ ⟨rfl⟩
    refine ⟨by simp [Pattern.Literal], ?_, targets _ ?_ ?_⟩ <;> simp [Pattern.Small]
  exact ⟨free, plain, ((run_answers told q).2 free).2 plain⟩

/-- The underscores of this part stand for the colons of a target that does not hold the part. -/
theorem underscores_answered :
    let q : LogQuery := { target := some "llm__reliable" }
    let book := LogBook.kept [noticed .warn "aegis_llm::reliable"]
    ¬ LogBook.Answers (q.Admits Pattern.Contains) 100 book.rows (q.run book) := by
  intro q book answers
  have listed : ∃ r ∈ q.run book, r.target = "aegis_llm::reliable" := by decide +kernel
  obtain ⟨r, listed, named⟩ := listed
  have contained := (answers.listed r listed).2.target "llm__reliable" rfl
  rw [named] at contained
  have missing : ¬ Pattern.Contains "llm__reliable" "aegis_llm::reliable" := by
    simp [Pattern.Contains, List.infix_cons_iff]
  exact missing contained

end LogQuery

end PathAudit
