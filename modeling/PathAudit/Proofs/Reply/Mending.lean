import PathAudit.Proofs.Reply.Passages
import Mathlib.Data.List.Induction

/-! Bare quotes in a text. An object written line by line, each text between two quotes just as it
is, is read as it was meant, however many quotes the texts hold: the last quote of a line closes its
text, and those before it are escaped. -/
namespace PathAudit.Reply
open Raw

section Escaping

def HasBareQuote (s : List Char) : Prop :=
  ∃ before after, s = before ++ '"' :: after ∧
    (before.reverse.takeWhile (· == '\\')).length % 2 = 0

def escapedAfter (escaped : Bool) (s : List Char) : Bool :=
  s.foldl (fun escaped c => c == '\\' && !escaped) escaped

theorem escapedAfter_eq (s : List Char) :
    escapedAfter false s = ((s.reverse.takeWhile (· == '\\')).length % 2 == 1) := by
  induction s using List.reverseRecOn with
  | nil => rfl
  | append_singleton s c ih =>
    have last : escapedAfter false (s ++ [c]) = (c == '\\' && !escapedAfter false s) := by
      simp [escapedAfter]
    rw [last, ih, List.reverse_append, List.reverse_singleton, List.singleton_append,
      List.takeWhile_cons]
    cases backslash : c == '\\' with
    | false => rfl
    | true =>
      rw [if_pos rfl, Bool.true_and, List.length_cons]
      rcases Nat.mod_two_eq_zero_or_one (s.reverse.takeWhile (· == '\\')).length with even | odd
      · simp [even, Nat.add_mod]
      · simp [odd, Nat.add_mod]

theorem escapeQuotes_escapeQuotes (escaped : Bool) (s : List Char) :
    escapeQuotes escaped (escapeQuotes escaped s) = escapeQuotes escaped s := by
  induction s generalizing escaped with
  | nil => rfl
  | cons c s ih =>
    by_cases bare : c = '"' ∧ escaped = false
    · obtain ⟨rfl, rfl⟩ := bare
      -- The backslash that was put in escapes the quote when the text is gone through again.
      simpa [escapeQuotes] using ih false
    · simp only [escapeQuotes, if_neg bare, ih]

theorem escapeQuotes_eq_self_iff (escaped : Bool) (s : List Char) :
    escapeQuotes escaped s = s ↔
      ∀ before after, s = before ++ '"' :: after → escapedAfter escaped before = true := by
  induction s generalizing escaped with
  | nil => simp [escapeQuotes]
  | cons c s ih =>
    by_cases bare : c = '"' ∧ escaped = false
    · obtain ⟨rfl, rfl⟩ := bare
      constructor
      · intro same
        simp [escapeQuotes] at same
      · intro all
        exact absurd (all [] s rfl) (by decide)
    · rw [escapeQuotes, if_neg bare, List.cons.injEq, eq_self, true_and, ih]
      constructor
      · intro all before after cut
        cases before with
        | nil =>
          obtain ⟨rfl, rfl⟩ := List.cons.inj cut
          simpa [escapedAfter] using bare
        | cons b before =>
          obtain ⟨rfl, rfl⟩ := List.cons.inj cut
          exact all before after rfl
      · rintro all before after rfl
        exact all (c :: before) after rfl

theorem escapeQuotes_eq_self_iff_not_hasBareQuote (s : List Char) :
    escapeQuotes false s = s ↔ ¬HasBareQuote s := by
  rw [escapeQuotes_eq_self_iff]
  constructor
  · rintro all ⟨before, after, cut, even⟩
    have escaped := all before after cut
    rw [escapedAfter_eq, even] at escaped
    contradiction
  · intro none before after cut
    rw [escapedAfter_eq, beq_iff_eq]
    rcases Nat.mod_two_eq_zero_or_one (before.reverse.takeWhile (· == '\\')).length with even | odd
    · exact absurd ⟨before, after, cut, even⟩ none
    · exact odd

theorem escapeQuotes_of_not_mem {s : List Char} (unquoted : '"' ∉ s) :
    escapeQuotes false s = s := by
  rw [escapeQuotes_eq_self_iff]
  rintro before after rfl
  simp at unquoted

theorem body_escapeQuotes {value : List Char} (plain : ∀ c ∈ value, c ≠ '\\' ∧ 32 ≤ c.toNat) :
    Body (escapeQuotes false value ++ ['"']) value := by
  induction value with
  | nil => exact .closed
  | cons c value ih =>
    obtain ⟨⟨unescaped, printing⟩, others⟩ := List.forall_mem_cons.mp plain
    have next : (c == '\\' && !false) = false := by simp [unescaped]
    rw [escapeQuotes, next]
    by_cases quote : c = '"'
    · subst quote
      have known : Escape ['"'] '"' := .simple rfl
      exact (Body.escaped known (ih others) :)
    · rw [if_neg (by simp [quote])]
      exact .plain quote unescaped printing (ih others)

end Escaping

theorem KeyLine.splitLastQuote_append {tail : List Char} (unquoted : '"' ∉ tail)
    (value : List Char) : splitLastQuote (value ++ '"' :: tail) = some (value, tail) := by
  have passed : ∀ c ∈ tail.reverse, (c != '"') = true := by
    intro c member
    rw [bne_iff_ne]
    rintro rfl
    exact unquoted (List.mem_reverse.mp member)
  have turned : (value ++ '"' :: tail).reverse = tail.reverse ++ '"' :: value.reverse := by simp
  rw [splitLastQuote, turned, List.dropWhile_append_of_pos passed,
    List.takeWhile_append_of_pos passed]
  simp

/-- A key and the text for it, to be written on a line of their own. -/
structure Entry where
  key : String
  value : String
  named : key ≠ ""
  key_plain : ∀ c ∈ key.toList, c ≠ '"' ∧ c ≠ '\\' ∧ 32 ≤ c.toNat
  value_plain : ∀ c ∈ value.toList, c ≠ '\\' ∧ 32 ≤ c.toNat

namespace Entry

def member (e : Entry) : String × Json := (e.key, .string e.value)

def line (e : Entry) : String := "\"" ++ e.key ++ "\": \"" ++ e.value ++ "\""

def head (e : Entry) : List Char := '"' :: (e.key.toList ++ ['"', ':', ' '])

def verbatim (e : Entry) : List Char := e.head ++ '"' :: (e.value.toList ++ ['"'])

def mended (e : Entry) : List Char :=
  e.head ++ '"' :: (escapeQuotes false e.value.toList ++ ['"'])

theorem toList_line (e : Entry) : e.line.toList = e.verbatim := by
  simp [line, verbatim, head]

theorem verbatim_printing (e : Entry) : ∀ c ∈ e.verbatim, 32 ≤ c.toNat := by
  have key : ∀ c ∈ e.key.toList, 32 ≤ c.toNat := fun c inside => (e.key_plain c inside).2.2
  have value : ∀ c ∈ e.value.toList, 32 ≤ c.toNat := fun c inside => (e.value_plain c inside).2
  have quote : ∀ c ∈ ['"'], 32 ≤ c.toNat := List.forall_mem_singleton.mpr (by decide)
  have marks : ∀ c ∈ ['"', ':', ' '], 32 ≤ c.toNat := by simp
  have head : ∀ c ∈ e.head, 32 ≤ c.toNat :=
    List.forall_mem_cons.mpr ⟨by decide, List.forall_mem_append.mpr ⟨key, marks⟩⟩
  exact List.forall_mem_append.mpr ⟨head,
    List.forall_mem_cons.mpr ⟨by decide, List.forall_mem_append.mpr ⟨value, quote⟩⟩⟩

theorem ofLine?_verbatim (e : Entry) {tail : List Char} (unquoted : '"' ∉ tail)
    (closing : KeyLine.isTail tail = true) :
    KeyLine.ofLine? (e.verbatim ++ tail) = some ⟨e.head, e.value.toList, tail⟩ := by
  have whole : e.verbatim ++ tail =
      '"' :: (e.key.toList ++ '"' :: ':' :: ' ' :: '"' :: (e.value.toList ++ '"' :: tail)) := by
    simp [verbatim, head]
  have passed : ∀ c ∈ e.key.toList, (c != '"') = true := fun c member =>
    bne_iff_ne.mpr (e.key_plain c member).1
  have key (rest : List Char) : (e.key.toList ++ '"' :: rest).takeWhile (· != '"') = e.key.toList ∧
      (e.key.toList ++ '"' :: rest).dropWhile (· != '"') = '"' :: rest := by
    rw [List.takeWhile_append_of_pos passed, List.dropWhile_append_of_pos passed]
    simp
  have named : e.key.toList.isEmpty = false := by
    simpa using e.named
  have solid {c : Char} (rest : List Char) (other : Text.isBlank c = false) :
      (c :: rest).takeWhile Text.isBlank = [] ∧ (c :: rest).dropWhile Text.isBlank = c :: rest := by
    simp [other]
  have spaced (rest : List Char) :
      (' ' :: '"' :: rest).takeWhile Text.isBlank = [' '] ∧
        (' ' :: '"' :: rest).dropWhile Text.isBlank = '"' :: rest := by
    have first : Text.isBlank ' ' = true := by decide
    have second : Text.isBlank '"' = false := by decide
    simp [first, second]
  -- The key ends at the first quote after its own, the text at the last quote of the line.
  rw [whole, KeyLine.ofLine?]
  simp only [solid (c := '"') _ (by decide), solid (c := ':') _ (by decide), key, named, spaced,
    Text.trimStart, KeyLine.splitLastQuote_append unquoted, closing, bind, Option.bind]
  simp [head]

theorem repairLine_verbatim (e : Entry) {tail : List Char} (unquoted : '"' ∉ tail)
    (closing : KeyLine.isTail tail = true) :
    repairLine (e.verbatim ++ tail) = e.mended ++ tail := by
  rw [repairLine, e.ofLine?_verbatim unquoted closing]
  dsimp only
  split
  · simp [KeyLine.repaired, mended]
  next clean => rw [verbatim, mended, escapeQuotes_of_not_mem (by simpa using clean)]

end Entry

/-- The lines of an object from its first entry on, the entries written by `write`. -/
def rows (write : Entry → List Char) : List Entry → List (List Char)
  | [] => [['\x7d']]
  | [e] => [write e, ['\x7d']]
  | e :: entries => (write e ++ [',']) :: rows write entries

def following (write : Entry → List Char) : List Entry → List Char
  | [] => ['\n', '\x7d']
  | e :: entries => ',' :: '\n' :: (write e ++ following write entries)

section Layout
variable (write : Entry → List Char)

theorem rows_ne_nil (entries : List Entry) : rows write entries ≠ [] := by
  cases entries with
  | nil => exact List.cons_ne_nil _ _
  | cons e entries => cases entries <;> exact List.cons_ne_nil _ _

theorem join_rows (e : Entry) (entries : List Entry) :
    Text.join ['\n'] (rows write (e :: entries)) = write e ++ following write entries := by
  induction entries generalizing e with
  | nil => simp [rows, following, Text.join]
  | cons next entries ih =>
    have cut : rows write (e :: next :: entries) =
        (write e ++ [',']) :: rows write (next :: entries) := rfl
    rw [cut, Text.join_cons_of_ne_nil _ _ (rows_ne_nil write _), ih, following]
    simp

theorem following_closes (entries : List Entry) :
    ∃ most, following write entries = most ++ ['\x7d'] := by
  induction entries with
  | nil => exact ⟨['\n'], rfl⟩
  | cons e entries ih =>
    obtain ⟨most, closed⟩ := ih
    exact ⟨',' :: '\n' :: (write e ++ most), by rw [following, closed]; simp⟩

theorem getLast?_rows (entries : List Entry) : (rows write entries).getLast? = some ['\x7d'] := by
  fun_induction rows write entries with
  | case1 => rfl
  | case2 e => rfl
  | case3 e entries some ih =>
    rw [List.getLast?_cons_of_ne_nil (rows_ne_nil write entries), ih]

theorem rows_printing {write : Entry → List Char} (printing : ∀ e, ∀ c ∈ write e, 32 ≤ c.toNat)
    (entries : List Entry) : ∀ row ∈ rows write entries, ∀ c ∈ row, 32 ≤ c.toNat := by
  have brace : ∀ row ∈ [['\x7d']], ∀ c ∈ row, 32 ≤ c.toNat :=
    List.forall_mem_singleton.mpr (List.forall_mem_singleton.mpr (by decide))
  have comma : ∀ c ∈ [','], 32 ≤ c.toNat := List.forall_mem_singleton.mpr (by decide)
  fun_induction rows write entries with
  | case1 => exact brace
  | case2 e => exact List.forall_mem_cons.mpr ⟨printing e, brace⟩
  | case3 e entries some ih =>
    exact List.forall_mem_cons.mpr ⟨List.forall_mem_append.mpr ⟨printing e, comma⟩, ih⟩

/-- Repair works line by line: each entry is mended where it stands. -/
theorem repairLine_rows (entries : List Entry) :
    (rows Entry.verbatim entries).map repairLine = rows Entry.mended entries := by
  have closing : repairLine ['\x7d'] = ['\x7d'] := repairLine_of_ne (by decide) (by decide)
  fun_induction rows Entry.verbatim entries with
  | case1 => rw [List.map_singleton, closing, rows]
  | case2 e =>
    have last : repairLine (e.verbatim ++ []) = e.mended ++ [] :=
      e.repairLine_verbatim (by decide) (by decide)
    simp only [List.append_nil] at last
    rw [List.map_cons, List.map_singleton, last, closing, rows]
  | case3 e entries some ih =>
    rw [List.map_cons, e.repairLine_verbatim (by decide) (by decide), ih, rows]
    exact some

end Layout

def handwritten (entries : List Entry) : String :=
  "\x7b\n" ++ joined ",\n" (entries.map Entry.line) ++ "\n\x7d"

theorem toList_handwritten (e : Entry) (entries : List Entry) :
    (handwritten (e :: entries)).toList =
      '\x7b' :: '\n' :: (e.verbatim ++ following Entry.verbatim entries) := by
  have inner : Text.join ",\n".toList ((e :: entries).map fun e => e.line.toList) ++
      ['\n', '\x7d'] = e.verbatim ++ following Entry.verbatim entries := by
    induction entries generalizing e with
    | nil => simp [Text.join, following, Entry.toList_line]
    | cons next entries ih =>
      rw [List.map_cons, Text.join_cons_of_ne_nil _ _ (by simp), List.append_assoc, ih, following,
        Entry.toList_line]
      simp
  simp [handwritten, joined, List.map_map, Function.comp_def, ← inner]

theorem repairQuotes_handwritten (e : Entry) (entries : List Entry) :
    repairQuotes (handwritten (e :: entries)).toList =
      '\x7b' :: '\n' :: (e.mended ++ following Entry.mended entries) := by
  have whole (write : Entry → List Char) :
      '\x7b' :: '\n' :: (write e ++ following write entries) =
        Text.join ['\n'] (['\x7b'] :: rows write (e :: entries)) := by
    rw [Text.join_cons_of_ne_nil _ _ (rows_ne_nil write _), join_rows]
    rfl
  have single : ∀ row ∈ ['\x7b'] :: rows Entry.verbatim (e :: entries),
      '\n' ∉ row ∧ '\r' ∉ row := by
    have printing : ∀ row ∈ ['\x7b'] :: rows Entry.verbatim (e :: entries), ∀ c ∈ row,
        32 ≤ c.toNat :=
      List.forall_mem_cons.mpr ⟨List.forall_mem_singleton.mpr (by decide),
        rows_printing Entry.verbatim_printing _⟩
    intro row held
    exact ⟨fun broken => absurd (printing row held _ broken) (by decide),
      fun returned => absurd (printing row held _ returned) (by decide)⟩
  have last : ∀ row ∈ (['\x7b'] :: rows Entry.verbatim (e :: entries)).getLast?, row ≠ [] := by
    rw [List.getLast?_cons_of_ne_nil (rows_ne_nil _ _), getLast?_rows]
    simp
  have opening : repairLine ['\x7b'] = ['\x7b'] := repairLine_of_ne (by decide) (by decide)
  rw [repairQuotes, toList_handwritten, whole, Text.lines_join single last, List.map_cons, opening,
    repairLine_rows, whole]

section Reading

theorem written_entry {first : Bool} {lead more : List Char} {trees : List (String × Json)}
    (opened : Lead first lead) (e : Entry) (rest : Written (.members false trees) more) :
    Written (.members first (e.member :: trees)) (lead ++ (e.mended ++ more)) := by
  have key : Body (e.key.toList ++ ['"']) e.key.toList := by
    have unquoted : '"' ∉ e.key.toList := fun quote => (e.key_plain _ quote).1 rfl
    have body := body_escapeQuotes fun c inside => (e.key_plain c inside).2
    rwa [escapeQuotes_of_not_mem unquoted] at body
  have value := Written.string (body_escapeQuotes e.value_plain)
  have written := Written.member opened key spaces_nil (spaces_singleton ' ' rfl) value rest
  simpa [Entry.member, Entry.mended, Entry.head] using written

theorem written_following (entries : List Entry) :
    Written (.members false (entries.map Entry.member)) (following Entry.mended entries) := by
  have blank : Spaces ['\n'] := spaces_singleton '\n' rfl
  induction entries with
  | nil => exact .noMember false blank
  | cons e entries ih => exact written_entry (.next spaces_nil blank) e ih

theorem readMembers_texts (entries : List Entry) (depth : Option Nat) :
    readMembers depth (ofMembers (entries.map Entry.member)) =
      .ok (entries.map Entry.member) := by
  induction entries with
  | nil => rfl
  | cons e entries ih =>
    simp only [List.map_cons, Entry.member, ofMembers, ofJson, readMembers, Raw.read, bind,
      Except.bind]
    rw [← Entry.member, ih]

theorem parse_mended (e : Entry) (entries : List Entry) :
    Json.parse (String.ofList ('\x7b' :: '\n' :: (e.mended ++ following Entry.mended entries))) =
      .ok (.object (sortMembers ((e :: entries).map Entry.member))) := by
  have blank : Spaces ['\n'] := spaces_singleton '\n' rfl
  refine (parse_eq_ok_iff _ _).mpr ⟨[], _, [], _, ?_, spaces_nil,
    .object (written_entry (.first blank) e (written_following entries)), spaces_nil, ?_⟩
  · simp
  · rw [ofJson, Raw.read, if_neg (by decide), ← List.map_cons, readMembers_texts]
    rfl

end Reading

theorem members_handwritten (e : Entry) (entries : List Entry)
    (unmarked : Unmarked (handwritten (e :: entries)))
    (broken : ∀ v, Json.parse (handwritten (e :: entries)) ≠ .ok v) :
    Reply.members (handwritten (e :: entries)) =
      .ok (sortMembers ((e :: entries).map Entry.member)) := by
  have found : candidate? (handwritten (e :: entries)).toList =
      some (handwritten (e :: entries)).toList := by
    obtain ⟨most, closed⟩ := following_closes Entry.verbatim entries
    have braces : (handwritten (e :: entries)).toList =
        [] ++ '\x7b' :: (('\n' :: (e.verbatim ++ most)) ++ '\x7d' :: []) := by
      simp [toList_handwritten, closed]
    rw [unmarked.candidate, braces, outerObject?_between List.not_mem_nil List.not_mem_nil]
    simp
  have mended := parse_mended e entries
  rw [← repairQuotes_handwritten] at mended
  cases read : Json.parse (handwritten (e :: entries)) with
  | ok v => exact absurd read (broken v)
  | error fault =>
    simp only [Reply.members, Reply.value, found, String.ofList_toList, read, mended]
    rfl

/-- Texts between quotes are read as they are written, and escaping does nothing that it has done
before or need not do. -/
theorem quotes_mended :
    (∀ entries : List Entry, entries ≠ [] → Unmarked (handwritten entries) →
      (∀ v, Json.parse (handwritten entries) ≠ .ok v) →
        ∃ members, Reply.members (handwritten entries) = .ok members ∧ Increasing members ∧
          ∀ key, members.lookup key = (entries.map Entry.member).reverse.lookup key) ∧
    (∀ s, escapeQuotes false (escapeQuotes false s) = escapeQuotes false s) ∧
    ∀ s, escapeQuotes false s = s ↔ ¬HasBareQuote s := by
  refine ⟨?_, escapeQuotes_escapeQuotes false, escapeQuotes_eq_self_iff_not_hasBareQuote⟩
  intro entries some unmarked broken
  obtain ⟨e, entries, rfl⟩ := List.exists_cons_of_ne_nil some
  exact ⟨_, members_handwritten e entries unmarked broken, increasing_sortMembers _,
    fun key => lookup_sortMembers key _⟩

def pickled : List Entry :=
  [⟨"summary", "to be done", by decide, by simp, by simp⟩,
    ⟨"key codes", "\"loads\"", by decide, by simp, by simp⟩,
    ⟨"summary", "calls \"pickle\": \"loads\", on \"body\"", by decide, by simp, by simp⟩]

theorem quotes_mended_pickled :
    pickled ≠ [] ∧ Unmarked (handwritten pickled) ∧
      (∀ v, Json.parse (handwritten pickled) ≠ .ok v) ∧
      ∃ members, Reply.members (handwritten pickled) = .ok members ∧
        members.lookup "summary" =
          some (.string "calls \"pickle\": \"loads\", on \"body\"") := by
  have unmarked : Unmarked (handwritten pickled) := ⟨by decide +kernel, by decide +kernel⟩
  have broken : ∀ v, Json.parse (handwritten pickled) ≠ .ok v := by
    have unread : (Json.parse (handwritten pickled)).toOption.isSome = false := by decide +kernel
    intro v read
    rw [read] at unread
    contradiction
  obtain ⟨members, read, -, held⟩ :=
    quotes_mended.1 pickled (List.cons_ne_nil _ _) unmarked broken
  exact ⟨List.cons_ne_nil _ _, unmarked, broken, members, read, held "summary"⟩

end PathAudit.Reply
