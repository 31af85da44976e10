import PathAudit.Proofs.Json.Quoting
import PathAudit.Proofs.Text.Cutting
import PathAudit.Reply.Reading

/-! Passages of an object's text. A reply is cut behind a line of thought, at a fence and at the
braces, wherever these stand: a cut may fall into one of the strings of the object that the reply
holds. From inside a string a text reads as if its quoted and unquoted parts had changed places, so
little can be read from a passage that begins there, and repairing its quotes does not help. -/
namespace PathAudit.Reply
open Raw

section Repair

theorem KeyLine.head_of_ofLine? {line : List Char} {k : KeyLine} (known : ofLine? line = some k) :
    (∃ quoted, line.dropWhile Text.isBlank = '"' :: quoted) ∧
      line.takeWhile Text.isBlank ++ ['"'] <+: k.head := by
  unfold ofLine? at known
  dsimp only at known
  split at known
  next quoted opened =>
    split at known
    next afterKey _ =>
      split at known
      · contradiction
      split at known
      next afterColon _ =>
        split at known
        next rest _ =>
          obtain ⟨⟨value, tail⟩, -, known⟩ := Option.bind_eq_some_iff.mp known
          dsimp only at known
          split at known
          · contradiction
          · obtain rfl := Option.some.inj known
            refine ⟨⟨quoted, opened⟩, ?_⟩
            simp only [List.append_assoc]
            exact (List.prefix_append_right_inj _).mpr (List.prefix_append _ _)
        · contradiction
      · contradiction
    · contradiction
  · contradiction

theorem repairLine_of_ne {c : Char} {line : List Char} (solid : Text.isBlank c = false)
    (unquoted : c ≠ '"') : repairLine (c :: line) = c :: line := by
  unfold repairLine
  split
  next k known =>
    obtain ⟨⟨quoted, opened⟩, -⟩ := KeyLine.head_of_ofLine? known
    rw [List.dropWhile_cons, if_neg (by simp [solid])] at opened
    exact absurd (List.cons.inj opened).1 unquoted
  · rfl

theorem repairLine_quote (line : List Char) : ∃ more, repairLine ('"' :: line) = '"' :: more := by
  unfold repairLine
  split
  next k known =>
    split
    · obtain ⟨-, more, head⟩ := KeyLine.head_of_ofLine? known
      rw [List.takeWhile_cons, if_neg (by decide), List.nil_append] at head
      rw [KeyLine.repaired, ← head]
      simp
    · exact ⟨line, rfl⟩
  · exact ⟨line, rfl⟩

theorem repairQuotes_first {c : Char} (solid : Text.isBlank c = false) (s : List Char) :
    ∃ line tail after, repairQuotes (c :: s) = repairLine (c :: line) ++ tail ∧
      s = line ++ after ∧
      (tail = [] ∨ (∃ more, tail = '\n' :: more) ∧ ∃ d more, after = d :: more ∧ d.toNat < 32) := by
  by_cases single : '\n' ∈ c :: s
  · obtain ⟨line, rest, cut, first⟩ := List.eq_append_cons_of_mem single
    obtain ⟨tail, joined, closed⟩ := Text.join_cons (repairLine (Text.withoutReturn line))
      ((Text.lines rest).map repairLine)
    rw [repairQuotes, cut, Text.lines_append first, List.map_cons, joined]
    cases line with
    | nil =>
      obtain ⟨rfl, -⟩ := List.cons.inj cut
      exact absurd solid (by decide)
    | cons b line =>
      obtain ⟨rfl, rfl⟩ := List.cons.inj cut
      obtain ⟨kept, same, rfl | rfl⟩ := Text.withoutReturn_cons solid line
      · rw [same]
        exact ⟨line, tail, _, rfl, rfl,
          closed.imp_right fun onward => ⟨onward, '\n', rest, rfl, by decide⟩⟩
      · rw [same]
        exact ⟨kept, tail, '\r' :: '\n' :: rest, rfl, by simp,
          closed.imp_right fun onward => ⟨onward, '\r', _, rfl, by decide⟩⟩
  · refine ⟨s, [], [], ?_, by simp, .inl rfl⟩
    rw [repairQuotes, Text.lines_of_not_mem single]
    simp [Text.join]

theorem repairQuotes_single {c : Char} {s : List Char} (solid : Text.isBlank c = false)
    (unquoted : c ≠ '"') (single : '\n' ∉ c :: s) : repairQuotes (c :: s) = c :: s := by
  rw [repairQuotes, Text.lines_of_not_mem single, List.map_singleton,
    repairLine_of_ne solid unquoted, Text.join]

end Repair

section Passages

/-- A passage that stands in a string of a larger text, at least with its beginning. -/
def InString (s : List Char) : Prop := ∃ p q : Position, p.mode = .inside ∧ p.follow s = some q

theorem InString.cut {s t : List Char} (inside : InString (s ++ t)) : InString s := by
  obtain ⟨p, q, mode, followed⟩ := inside
  obtain ⟨r, first, -⟩ := follow_append_eq_some.mp followed
  exact ⟨p, r, mode, first⟩

theorem InString.not_mem_of_parse {s : List Char} (inside : InString s) {v : Json}
    (parsed : Json.parse (String.ofList s) = .ok v) {c : Char} (unquoted : c ≠ '"')
    (foreign : isOuter c = false) : c ∉ (String.ofList s).toList := by
  obtain ⟨p, q, mode, followed⟩ := inside
  have outside := follow_of_parse parsed 0
  rw [String.toList_ofList] at outside ⊢
  obtain ⟨-, outer⟩ := follow_opposed (.inl ⟨mode, rfl⟩) followed outside
  intro member
  rcases outer c member with quote | outer
  · exact unquoted quote
  · rw [foreign] at outer
    contradiction

theorem InString.lookup_of_parse {s : List Char} {members : List (String × Json)}
    (inside : InString s) (parsed : Json.parse (String.ofList s) = .ok (.object members)) :
    members.lookup "is_accurate_and_complete" = none := by
  have unescaped := inside.not_mem_of_parse parsed (c := '\\') (by decide) (by decide)
  have missing := inside.not_mem_of_parse parsed (c := 'i') (by decide) (by decide)
  exact Raw.lookup_of_parse parsed unescaped (by decide) missing

theorem not_object_of_quote {s : List Char} {members : List (String × Json)}
    (parsed : Json.parse (String.ofList ('"' :: s)) = .ok (.object members)) : False := by
  obtain ⟨lead, inner, trail, trees, cut, before, -⟩ := object_of_parse parsed
  rw [String.toList_ofList] at cut
  cases lead with
  | nil => exact absurd (List.cons.inj cut).1 (by decide)
  | cons c lead =>
    obtain ⟨rfl, -⟩ := List.cons.inj cut
    exact absurd (before '"' List.mem_cons_self) (by decide)

/-- Repair does not help a passage that begins in a string: its first line stays as it is, and a
line break would have to stand outside of strings for the whole text and for the passage alone. -/
theorem InString.of_repaired {s : List Char} (inside : InString s)
    (solid : ∀ c ∈ s.head?, Text.isBlank c = false) {members : List (String × Json)}
    (parsed : Json.parse (String.ofList (repairQuotes s)) = .ok (.object members)) :
    ∃ t, InString t ∧ Json.parse (String.ofList t) = .ok (.object members) := by
  cases s with
  | nil => exact ⟨[], inside, parsed⟩
  | cons c s =>
    have bare := solid c rfl
    obtain ⟨line, tail, after, repaired, rfl, ended⟩ := repairQuotes_first bare s
    rw [repaired] at parsed
    by_cases quote : c = '"'
    · subst quote
      obtain ⟨more, same⟩ := repairLine_quote line
      rw [same] at parsed
      exact (not_object_of_quote parsed).elim
    · rw [repairLine_of_ne bare quote] at parsed
      rcases ended with rfl | ⟨⟨more, rfl⟩, d, rest, rfl, control⟩
      · rw [List.append_nil] at parsed
        exact ⟨c :: line, InString.cut inside, parsed⟩
      · obtain ⟨p, q, mode, followed⟩ := inside
        have outside := follow_of_parse parsed 0
        rw [String.toList_ofList] at outside
        rw [← List.cons_append] at followed
        obtain ⟨r, first, second⟩ := follow_append_eq_some.mp followed
        obtain ⟨r', first', second'⟩ := follow_append_eq_some.mp outside
        obtain ⟨_, step, -⟩ := follow_cons_eq_some.mp second
        obtain ⟨_, step', -⟩ := follow_cons_eq_some.mp second'
        obtain ⟨opposed, -⟩ := follow_opposed (.inl ⟨mode, rfl⟩) first first'
        have left := outside_of_control control step
        have right := outside_of_control (by decide) step'
        simp [Opposed, left, right] at opposed

end Passages

section Candidates

theorem withoutLanguage_cut (s : List Char) :
    ∃ word, s = word ++ withoutLanguage s ∧ ∀ c ∈ word, c ≠ '"' ∧ c ≠ '\\' := by
  unfold withoutLanguage
  cases small : "json".toList.isPrefixOf? s with
  | some rest =>
    exact ⟨"json".toList, (List.isPrefixOf?_eq_some_iff_append_eq.mp small).symm, by simp⟩
  | none =>
    cases large : "JSON".toList.isPrefixOf? s with
    | some rest =>
      exact ⟨"JSON".toList, (List.isPrefixOf?_eq_some_iff_append_eq.mp large).symm, by simp⟩
    | none => exact ⟨[], rfl, by simp⟩

theorem fenced?_cut {s candidate : List Char} (found : fenced? s = some candidate) :
    ∃ before opening trail rest,
      s = before ++ (fenceMark ++ (opening ++ (candidate ++ (trail ++ (fenceMark ++ rest))))) ∧
      (∀ c ∈ opening, c ≠ '"' ∧ c ≠ '\\') ∧ ∀ c ∈ candidate.head?, Text.isBlank c = false := by
  obtain ⟨⟨before, opened⟩, first, found⟩ := Option.bind_eq_some_iff.mp found
  obtain ⟨⟨body, rest⟩, second, found⟩ := Option.bind_eq_some_iff.mp found
  obtain rfl := Option.some.inj found
  obtain ⟨word, language, unmarked⟩ := withoutLanguage_cut opened
  obtain ⟨blank, blanks, trimmed⟩ := Text.trimStart_cut (withoutLanguage opened)
  obtain ⟨trail, ended⟩ := Text.trimEnd_cut body
  have inner := Text.splitFirst_cut second
  have whole : opened = word ++ (blank ++ (body ++ (fenceMark ++ rest))) := by
    rw [← inner, ← trimmed, ← language]
  refine ⟨before, word ++ blank, trail, rest, ?_, ?_, ?_⟩
  · rw [Text.splitFirst_cut first, ← List.append_assoc (Text.trimEnd body), ← ended, whole,
      List.append_assoc word]
  · intro c member
    rcases List.mem_append.mp member with inWord | inBlank
    · exact unmarked c inWord
    · have isBlank := blanks c inBlank
      constructor <;> rintro rfl <;> exact absurd isBlank (by decide)
  · intro c first
    refine Text.head?_trimStart (withoutLanguage opened) c ?_
    rw [inner, ended, List.append_assoc, List.head?_append_of_ne_nil]
    · exact first
    · rintro empty
      simp [empty] at first

/-- What is fenced in an object's text begins in a string, for the fence does. The closing fence
need not stand in the text itself. -/
theorem InString.of_fenced {s tail candidate : List Char} {p q : Position}
    (followed : p.follow s = some q) (short : tail.length ≤ fenceMark.length)
    (found : fenced? (s ++ tail) = some candidate) : InString candidate := by
  obtain ⟨before, opening, trail, rest, cut, unmarked, -⟩ := fenced?_cut found
  have passed : before ++ (fenceMark ++ (opening ++ candidate)) <+: s ++ tail := by
    rw [cut]
    exact ⟨trail ++ (fenceMark ++ rest), by simp only [List.append_assoc]⟩
  have shorter : (before ++ (fenceMark ++ (opening ++ candidate))).length ≤ s.length := by
    have sizes := congrArg List.length cut
    simp only [List.length_append] at sizes ⊢
    omega
  have within := List.prefix_of_prefix_length_le passed (List.prefix_append s tail) shorter
  obtain ⟨after, rfl⟩ := within
  obtain ⟨_, followed, -⟩ := follow_append_eq_some.mp followed
  obtain ⟨_, -, followed⟩ := follow_append_eq_some.mp followed
  obtain ⟨marked, fence, followed⟩ := follow_append_eq_some.mp followed
  obtain ⟨opened, through, followed⟩ := follow_append_eq_some.mp followed
  have mode : marked.mode = .inside :=
    inside_of_mark (s := ['\x60', '\x60']) (by decide) (by decide) (by decide) fence
  exact ⟨opened, _, inside_of_follow unmarked mode through, followed⟩

theorem outerObject?_cut {s candidate : List Char} (found : outerObject? s = some candidate) :
    ∃ prose opened, s = prose ++ '\x7b' :: opened ∧
      Text.throughLast '\x7d' ('\x7b' :: opened) = some candidate := by
  unfold outerObject? at found
  have stop := List.head?_dropWhile_not (· != '\x7b') s
  have whole : s = s.takeWhile (· != '\x7b') ++ s.dropWhile (· != '\x7b') :=
    List.takeWhile_append_dropWhile.symm
  generalize s.dropWhile (· != '\x7b') = rest at found stop whole
  cases rest with
  | nil => contradiction
  | cons c opened =>
    obtain rfl : c = '\x7b' := by simpa using stop
    exact ⟨_, opened, whole, found⟩

theorem outerObject?_between {prose after : List Char} (unopened : '\x7b' ∉ prose)
    (unclosed : '\x7d' ∉ after) (inner : List Char) :
    outerObject? (prose ++ '\x7b' :: (inner ++ '\x7d' :: after)) =
      some ('\x7b' :: (inner ++ ['\x7d'])) := by
  have passed : ∀ c ∈ prose, (c != '\x7b') = true := by
    intro c member
    rw [bne_iff_ne]
    rintro rfl
    exact unopened member
  unfold outerObject?
  rw [List.dropWhile_append_of_pos passed, List.dropWhile_cons, if_neg (by decide)]
  exact Text.throughLast_append ('\x7b' :: inner) unclosed

theorem outerObject?_append (s : List Char) {tail : List Char} (unopened : '\x7b' ∉ tail)
    (unclosed : '\x7d' ∉ tail) : outerObject? (s ++ tail) = outerObject? s := by
  by_cases opened : '\x7b' ∈ s
  · obtain ⟨prose, rest, rfl, first⟩ := List.eq_append_cons_of_mem opened
    have passed : ∀ c ∈ prose, (c != '\x7b') = true := by
      intro c member
      rw [bne_iff_ne]
      rintro rfl
      exact first member
    unfold outerObject?
    rw [List.append_assoc, List.dropWhile_append_of_pos passed,
      List.dropWhile_append_of_pos passed, List.cons_append, List.dropWhile_cons,
      if_neg (by decide), List.dropWhile_cons, if_neg (by decide)]
    exact Text.throughLast_tail ('\x7b' :: rest) unclosed
  · have none (t : List Char) (absent : '\x7b' ∉ t) : outerObject? t = none := by
      have all : t.dropWhile (· != '\x7b') = [] := by
        refine List.dropWhile_eq_nil_iff.mpr fun c member => ?_
        rw [bne_iff_ne]
        rintro rfl
        exact absent member
      rw [outerObject?, all]
    rw [none s opened, none (s ++ tail) (by simp [opened, unopened])]

theorem outerObject?_within {s candidate : List Char} (found : outerObject? s = some candidate) :
    ∃ prose more after, s = prose ++ (candidate ++ after) ∧ candidate = '\x7b' :: more := by
  obtain ⟨prose, opened, rfl, closed⟩ := outerObject?_cut found
  obtain ⟨most, after, rfl, cut⟩ := Text.throughLast_cut closed
  cases most with
  | nil => exact absurd (List.cons.inj cut).1 (by decide)
  | cons c most =>
    obtain ⟨rfl, -⟩ := List.cons.inj cut
    exact ⟨prose, most ++ ['\x7d'], after, by rw [cut], rfl⟩

section Outer
variable {lead inner trail : List Char} {trees : List (String × Json)} (before : Spaces lead)
  (written : Written (.members true trees) inner) (after : Spaces trail)
include before written after

theorem outerObject?_of_object :
    outerObject? (lead ++ '\x7b' :: (inner ++ trail)) = some ('\x7b' :: inner) := by
  have unopened : '\x7b' ∉ lead := fun member => absurd (before _ member) (by decide)
  have unclosed : '\x7d' ∉ trail := fun member => absurd (after _ member) (by decide)
  obtain ⟨most, rfl⟩ := List.getLast?_eq_some_iff.mp written.closes
  rw [List.append_assoc, List.singleton_append]
  exact outerObject?_between unopened unclosed most

theorem outerObject?_of_suffix {passed rest candidate : List Char}
    (cut : lead ++ '\x7b' :: (inner ++ trail) = passed ++ rest) (beyond : '<' ∈ passed)
    (found : outerObject? rest = some candidate) :
    ∃ skipped more, inner = skipped ++ candidate ∧ candidate = '\x7b' :: more := by
  obtain ⟨prose, opened, rfl, closed⟩ := outerObject?_cut found
  obtain ⟨most, rfl⟩ := List.getLast?_eq_some_iff.mp written.closes
  have absent : '\x7d' ∉ trail := fun member => absurd (after _ member) (by decide)
  have ends : (passed ++ prose) ++ '\x7b' :: opened =
      (lead ++ '\x7b' :: most) ++ '\x7d' :: trail := by
    rw [List.append_assoc, ← cut]
    simp
  rcases List.append_eq_append_iff.mp ends with ⟨kept, same, tail⟩ | ⟨extra, -, tail⟩
  · obtain ⟨kept, rfl, rfl⟩ : ∃ more, kept = '\x7b' :: more ∧ opened = more ++ '\x7d' :: trail := by
      cases kept with
      | nil => exact absurd (List.cons.inj tail).1 (by decide)
      | cons b kept =>
        obtain ⟨rfl, rfl⟩ := List.cons.inj tail
        exact ⟨kept, rfl, rfl⟩
    have candidate_eq := Text.throughLast_append ('\x7b' :: kept) absent
    rw [List.cons_append] at candidate_eq
    obtain rfl := Option.some.inj (closed.symm.trans candidate_eq)
    have begins : (lead ++ ['\x7b']) ++ most = (passed ++ prose) ++ '\x7b' :: kept := by
      rw [← same]
      simp
    rcases List.append_eq_append_iff.mp begins with ⟨skipped, -, rfl⟩ | ⟨extra, short, -⟩
    · exact ⟨skipped, kept ++ ['\x7d'], by simp, rfl⟩
    · have inLead : '<' ∈ lead ++ ['\x7b'] := by simp [short, beyond]
      rcases List.mem_append.mp inLead with space | brace
      · exact absurd (before _ space) (by decide)
      · exact absurd (List.mem_singleton.mp brace) (by decide)
  · cases extra with
    | nil => exact absurd (List.cons.inj tail).1 (by decide)
    | cons b extra =>
      obtain ⟨rfl, rfl⟩ := List.cons.inj tail
      exact absurd (after '\x7b' (by simp)) (by decide)

end Outer

end Candidates

section Replies
variable {text : String} {members : List (String × Json)}

theorem afterThought_of_absent {s : List Char}
    (absent : Text.contains "</think>".toList s = false) : afterThought s = s := by
  rw [afterThought, Text.afterLast_eq_none_iff.mpr absent]
  rfl

theorem afterThought_cut {s : List Char} (thought : Text.contains "</think>".toList s = true) :
    ∃ before, s = before ++ afterThought s ∧ '<' ∈ before := by
  unfold afterThought
  cases last : Text.afterLast "</think>".toList s with
  | none =>
    rw [Text.afterLast_eq_none_iff.mp last] at thought
    contradiction
  | some after =>
    obtain ⟨before, cut⟩ := Text.afterLast_cut last
    rw [← List.append_assoc] at cut
    exact ⟨before ++ "</think>".toList, cut, List.mem_append_right _ (by decide)⟩

theorem members_eq_ok_iff {held : List (String × Json)} :
    Reply.members text = .ok held ↔ Reply.value text = .ok (.object held) := by
  cases value : Reply.value text with
  | error fault => simp [Reply.members, value, bind, Except.bind]
  | ok v => cases v <;> simp [Reply.members, value, bind, Except.bind]

theorem exists_candidate {v : Json} (known : Reply.value text = .ok v) :
    ∃ candidate, candidate? text.toList = some candidate := by
  cases found : candidate? text.toList with
  | none => simp [Reply.value, found] at known
  | some candidate => exact ⟨candidate, rfl⟩

theorem value_cases {candidate : List Char} (found : candidate? text.toList = some candidate)
    {v : Json} (known : Reply.value text = .ok v) :
    Json.parse (String.ofList candidate) = .ok v ∨
      Json.parse (String.ofList (repairQuotes candidate)) = .ok v := by
  rw [Reply.value, found] at known
  dsimp only at known
  split at known
  next parsed =>
    obtain rfl := Except.ok.inj known
    exact .inl parsed
  next =>
    cases mended : Json.parse (String.ofList (repairQuotes candidate)) with
    | error fault => simp [mended, Except.mapError] at known
    | ok w =>
      simp only [mended, Except.mapError, Except.ok.injEq] at known
      exact .inr (congrArg Except.ok known)

theorem InString.of_value {candidate : List Char} (found : candidate? text.toList = some candidate)
    (inside : InString candidate) (solid : ∀ c ∈ candidate.head?, Text.isBlank c = false)
    {read : List (String × Json)} (known : Reply.value text = .ok (.object read)) :
    ∃ t, InString t ∧ Json.parse (String.ofList t) = .ok (.object read) := by
  rcases value_cases found known with parsed | repaired
  · exact ⟨candidate, inside, parsed⟩
  · exact inside.of_repaired solid repaired

/-- Behind a line of thought no object that can be read as it stands is found: the braces there
would close the object that is the whole reply. -/
theorem inString_of_thought (parsed : Json.parse text = .ok (.object members))
    (thought : Text.contains "</think>".toList text.toList = true) {candidate : List Char}
    (found : outerObject? (afterThought text.toList) = some candidate) {v : Json}
    (read : Json.parse (String.ofList candidate) = .ok v) :
    InString candidate ∧ ∀ c ∈ candidate.head?, Text.isBlank c = false := by
  obtain ⟨lead, inner, trail, trees, cut, before, written, after, -⟩ := object_of_parse parsed
  obtain ⟨passed, split, beyond⟩ := afterThought_cut thought
  obtain ⟨skipped, more, rfl, rfl⟩ :=
    outerObject?_of_suffix before written after (cut.symm.trans split) beyond found
  refine ⟨?_, by simp; decide⟩
  obtain ⟨⟨mode, depth⟩, -, closing⟩ := follow_append_eq_some.mp (written.follows 0)
  cases mode with
  | inside => exact ⟨_, _, rfl, closing⟩
  | escaping =>
    obtain ⟨_, step, -⟩ := follow_cons_eq_some.mp closing
    obtain ⟨known, -⟩ := next_escaping step
    exact absurd known (by decide)
  | outside =>
    -- Read alone, the passage ends under as many brackets as it begins under; here it closes all.
    cases depth with
    | zero => contradiction
    | succ depth =>
      have level := follow_of_parse read depth
      rw [String.toList_ofList, closing] at level
      simp at level

structure Unmarked (text : String) : Prop where
  fence : occursIn "```" text = false
  thought : occursIn "</think>" text = false

theorem Unmarked.candidate (unmarked : Unmarked text) :
    candidate? text.toList = outerObject? text.toList := by
  have bare : fenced? text.toList = none := by
    rw [fenced?, fenceMark, Text.splitFirst_eq_none_iff.mpr unmarked.fence]
    rfl
  rw [candidate?, afterThought_of_absent unmarked.thought, bare]
  rfl

end Replies

end PathAudit.Reply
