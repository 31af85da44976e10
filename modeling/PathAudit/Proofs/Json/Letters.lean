import PathAudit.Proofs.Json.Compact
import PathAudit.Proofs.Json.Quoting

/-! The characters of a printed value. Some are the printer's own, the others come from the keys
and the strings: where a text without a backslash lacks a character of the second kind, what is
read from it lacks it too. -/
namespace PathAudit
open Raw

namespace Json

theorem toList_compact (v : Json) : v.compact.toList = v.print := String.toList_ofList

def isMark (c : Char) : Bool :=
  isNumeral c || c == '"' || c == ',' || c == ':' || c == '[' || c == ']' || c == '\x7b' ||
    c == '\x7d' || ['n', 'u', 'l', 't', 'r', 'f', 'a', 's'].contains c

/-- A printed value has the character only where a key or a string has it. -/
structure Borrowed (c : Char) : Prop where
  foreign : isMark c = false
  copied : ∀ d, c ∈ escapeChar d → c = d

/-- What escaping adds: it suffices to look at the characters that are escaped. -/
theorem eq_of_mem_escapeChar {c : Char} (unquoted : c ≠ '"') (unescaped : c ≠ '\\')
    (low : ∀ k < 32, c ∉ escapeChar (Char.ofNat k)) {d : Char} (member : c ∈ escapeChar d) :
    c = d := by
  by_cases control : d.toNat < 32
  · have absent := low d.toNat control
    rw [Char.ofNat_toNat] at absent
    contradiction
  · unfold escapeChar at member
    split_ifs at member with quote backslash
    · simp [unquoted, unescaped] at member
    · simp [unescaped] at member
    · exact List.mem_singleton.mp member

theorem borrowed_less : Borrowed '<' :=
  ⟨by decide, fun _ => eq_of_mem_escapeChar (by decide) (by decide) (by decide)⟩

section Printing
variable {c : Char} (foreign : isMark c = false)
include foreign

theorem ne_of_isMark {d : Char} (mark : isMark d = true) : c ≠ d := by
  rintro rfl
  rw [foreign] at mark
  contradiction

theorem not_mem_numberText (n : JsonNumber) : c ∉ numberText n := by
  intro member
  have numeral := isNumeral_of_mem_numberText n c member
  simp [isMark, numeral] at foreign

theorem not_mem_array (items : List Json) :
    c ∉ (Json.array items).print ↔ ∀ item ∈ items, c ∉ item.print := by
  have comma : c ≠ ',' := ne_of_isMark foreign (by decide)
  have rest (items : List Json) : c ∉ printItems items ↔ ∀ item ∈ items, c ∉ item.print := by
    induction items with
    | nil => simp [printItems]
    | cons item items ih => simp [printItems, comma, ih]
  have opening : c ≠ '[' := ne_of_isMark foreign (by decide)
  have closing : c ≠ ']' := ne_of_isMark foreign (by decide)
  cases items with
  | nil => simp [print, opening, closing]
  | cons item items => simp [print, opening, closing, rest]

theorem not_mem_object (members : List (String × Json)) :
    c ∉ (Json.object members).print ↔
      ∀ member ∈ members, c ∉ quoteText member.1 ∧ c ∉ member.2.print := by
  have comma : c ≠ ',' := ne_of_isMark foreign (by decide)
  have colon : c ≠ ':' := ne_of_isMark foreign (by decide)
  have rest (members : List (String × Json)) : c ∉ printMembers members ↔
      ∀ member ∈ members, c ∉ quoteText member.1 ∧ c ∉ member.2.print := by
    induction members with
    | nil => simp [printMembers]
    | cons member members ih => simp [printMembers, comma, colon, ih, and_assoc]
  have opening : c ≠ '\x7b' := ne_of_isMark foreign (by decide)
  have closing : c ≠ '\x7d' := ne_of_isMark foreign (by decide)
  cases members with
  | nil => simp [print, opening, closing]
  | cons member members => simp [print, opening, closing, colon, rest, and_assoc]

theorem mem_of_mem_quoteText {s : String} (member : c ∈ quoteText s) :
    ∃ d ∈ s.toList, c ∈ escapeChar d := by
  have quote : c ≠ '"' := ne_of_isMark foreign (by decide)
  simpa [quoteText, quote] using member

end Printing

theorem Borrowed.not_mem_quoteText {c : Char} (borrowed : Borrowed c) {s : String}
    (absent : c ∉ s.toList) : c ∉ quoteText s := by
  intro member
  obtain ⟨d, inside, shown⟩ := mem_of_mem_quoteText borrowed.foreign member
  exact absent (borrowed.copied d shown ▸ inside)

section Breaks

theorem break_not_mem_quoteText (s : String) : '\n' ∉ quoteText s := by
  intro member
  obtain ⟨d, -, shown⟩ := mem_of_mem_quoteText (by decide) member
  obtain rfl := eq_of_mem_escapeChar (by decide) (by decide) (by decide) shown
  exact absurd shown (by decide)

mutual

theorem break_not_mem_print (v : Json) : '\n' ∉ v.print := by
  cases v with
  | null => decide
  | bool b => cases b <;> decide
  | number n => exact not_mem_numberText (by decide) n
  | string s => exact break_not_mem_quoteText s
  | array items => exact (not_mem_array (by decide) items).mpr (break_not_mem_items items)
  | object members =>
    exact (not_mem_object (by decide) members).mpr fun member held =>
      ⟨break_not_mem_quoteText member.1, break_not_mem_members members member held⟩

theorem break_not_mem_items (items : List Json) : ∀ item ∈ items, '\n' ∉ item.print := by
  cases items with
  | nil => exact List.forall_mem_nil _
  | cons item items =>
    exact List.forall_mem_cons.mpr ⟨break_not_mem_print item, break_not_mem_items items⟩

theorem break_not_mem_members (members : List (String × Json)) :
    ∀ member ∈ members, '\n' ∉ member.2.print := by
  cases members with
  | nil => exact List.forall_mem_nil _
  | cons member members =>
    exact List.forall_mem_cons.mpr ⟨break_not_mem_print member.2, break_not_mem_members members⟩

end

end Breaks

end Json

namespace Raw
open Json
variable {c : Char}

def Lacks (c : Char) : Piece → Prop
  | .value tree => c ∉ tree.print
  | .items _ trees => ∀ tree ∈ trees, c ∉ tree.print
  | .members _ trees => ∀ member ∈ trees, c ∉ quoteText member.1 ∧ c ∉ member.2.print

theorem Written.lacks {piece : Piece} {text : List Char} (written : Written piece text)
    (borrowed : Borrowed c) (unescaped : '\\' ∉ text) (missing : c ∉ text) : Lacks c piece := by
  induction written with
  | null | yes | no => exact missing
  | number | negative => exact not_mem_numberText borrowed.foreign _
  | string body =>
    rw [List.mem_cons, not_or] at unescaped missing
    refine borrowed.not_mem_quoteText fun member => missing.2 ?_
    exact body.within unescaped.2 c (by simpa using member)
  | array items ih =>
    rw [List.mem_cons, not_or] at unescaped missing
    exact (not_mem_array borrowed.foreign _).mpr (ih unescaped.2 missing.2)
  | object members ih =>
    rw [List.mem_cons, not_or] at unescaped missing
    exact (not_mem_object borrowed.foreign _).mpr (ih unescaped.2 missing.2)
  | noItem | noMember => exact List.forall_mem_nil _
  | item opened head tail headLacks tailLacks =>
    simp only [List.mem_append, not_or] at unescaped missing
    exact List.forall_mem_cons.mpr ⟨headLacks unescaped.2.1 missing.2.1,
      tailLacks unescaped.2.2 missing.2.2⟩
  | member opened body left right head tail headLacks tailLacks =>
    simp only [List.mem_append, List.mem_cons, not_or] at unescaped missing
    obtain ⟨-, -, keyUnescaped, -, -, -, headUnescaped, tailUnescaped⟩ := unescaped
    obtain ⟨-, -, keyMissing, -, -, -, headMissing, tailMissing⟩ := missing
    refine List.forall_mem_cons.mpr ⟨⟨?_, headLacks headUnescaped headMissing⟩,
      tailLacks tailUnescaped tailMissing⟩
    refine borrowed.not_mem_quoteText fun member => keyMissing ?_
    exact body.within keyUnescaped c (by simpa using member)

mutual

theorem not_mem_print_of_read (borrowed : Borrowed c) {tree v : Json} {depth : Option Nat}
    (known : read depth (ofJson tree) = .ok v) (lacks : c ∉ tree.print) : c ∉ v.print := by
  cases tree with
  | null | bool | number | string =>
    obtain rfl := Except.ok.inj known
    exact lacks
  | array trees =>
    obtain ⟨held, inner, -, rfl⟩ := read_array known
    exact (not_mem_array borrowed.foreign held).mpr
      (not_mem_print_of_readItems borrowed inner ((not_mem_array borrowed.foreign trees).mp lacks))
  | object trees =>
    obtain ⟨held, inner, -, rfl⟩ := read_object known
    have all := not_mem_print_of_readMembers borrowed inner
      ((not_mem_object borrowed.foreign trees).mp lacks)
    refine (not_mem_object borrowed.foreign _).mpr fun member kept => all member ?_
    exact mem_of_mem_sortMembers kept

theorem not_mem_print_of_readItems (borrowed : Borrowed c) {trees held : List Json}
    {depth : Option Nat} (known : readItems depth (ofItems trees) = .ok held)
    (lacks : ∀ tree ∈ trees, c ∉ tree.print) : ∀ v ∈ held, c ∉ v.print := by
  cases trees with
  | nil =>
    obtain rfl := Except.ok.inj known
    exact List.forall_mem_nil _
  | cons tree trees =>
    obtain ⟨v, vs, first, rest, rfl⟩ := readItems_cons known
    obtain ⟨head, tail⟩ := List.forall_mem_cons.mp lacks
    exact List.forall_mem_cons.mpr
      ⟨not_mem_print_of_read borrowed first head, not_mem_print_of_readItems borrowed rest tail⟩

theorem not_mem_print_of_readMembers (borrowed : Borrowed c) {trees held : List (String × Json)}
    {depth : Option Nat} (known : readMembers depth (ofMembers trees) = .ok held)
    (lacks : ∀ member ∈ trees, c ∉ quoteText member.1 ∧ c ∉ member.2.print) :
    ∀ member ∈ held, c ∉ quoteText member.1 ∧ c ∉ member.2.print := by
  cases trees with
  | nil =>
    obtain rfl := Except.ok.inj known
    exact List.forall_mem_nil _
  | cons member trees =>
    obtain ⟨name, v, others, named, first, rest, rfl⟩ := readMembers_cons known
    obtain rfl := Except.ok.inj named
    obtain ⟨⟨key, value⟩, tail⟩ := List.forall_mem_cons.mp lacks
    exact List.forall_mem_cons.mpr ⟨⟨key, not_mem_print_of_read borrowed first value⟩,
      not_mem_print_of_readMembers borrowed rest tail⟩

end

theorem not_mem_print_of_parse (borrowed : Borrowed c) {s : String} {v : Json}
    (parsed : Json.parse s = .ok v) (unescaped : '\\' ∉ s.toList) (missing : c ∉ s.toList) :
    c ∉ v.print := by
  obtain ⟨lead, text, trail, tree, cut, before, written, after, known⟩ :=
    (parse_eq_ok_iff s v).mp parsed
  simp only [cut, List.mem_append, not_or] at unescaped missing
  exact not_mem_print_of_read borrowed known (written.lacks borrowed unescaped.2.1 missing.2.1)

end Raw

end PathAudit
