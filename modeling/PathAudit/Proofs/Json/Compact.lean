import PathAudit.Json.Printer
import Mathlib.Data.List.Basic

/-! Where the compact text of a value ends. A text, a list and an object close themselves, and a
number or a word ends before the first character that can follow a value; so the text of a value is
told from what stands behind it, and two values with the same text differ in their numbers at
most. -/
namespace PathAudit.Json

def isStop (c : Char) : Bool := c == ' ' || c == ',' || c == ']' || c == '\x7d'

def Ended (rest : List Char) : Prop := ∀ c ∈ rest.head?, isStop c = true

theorem ended_cons {c : Char} (rest : List Char) (stop : isStop c = true) : Ended (c :: rest) := by
  intro d first
  cases Option.some.inj first
  exact stop

theorem word_append_inj (stop : Char → Bool) {s t x y : List Char}
    (left : ∀ c ∈ s, stop c = false) (right : ∀ c ∈ t, stop c = false)
    (leftEnds : ∀ c ∈ x.head?, stop c = true) (rightEnds : ∀ c ∈ y.head?, stop c = true)
    (same : s ++ x = t ++ y) : s = t ∧ x = y := by
  induction s generalizing t with
  | nil =>
    cases t with
    | nil => exact ⟨rfl, same⟩
    | cons d t =>
      have stopped := leftEnds d (by rw [List.nil_append] at same; simp [same])
      rw [right d List.mem_cons_self] at stopped
      contradiction
  | cons c s ih =>
    cases t with
    | nil =>
      have stopped := rightEnds c (by rw [List.nil_append] at same; simp [← same])
      rw [left c List.mem_cons_self] at stopped
      contradiction
    | cons d t =>
      obtain ⟨rfl, rest⟩ := List.cons.inj same
      obtain ⟨rfl, onward⟩ := ih (fun c member => left c (List.mem_cons_of_mem _ member))
        (fun c member => right c (List.mem_cons_of_mem _ member)) rest
      exact ⟨rfl, onward⟩

section Numbers

def isNumeral (c : Char) : Bool := c.isDigit || c == '-' || c == '+' || c == '.' || c == 'e'

theorem isNumeral_of_isDigit {c : Char} (digit : c.isDigit = true) : isNumeral c = true := by
  simp [isNumeral, digit]

theorem isStop_of_isNumeral {c : Char} (numeral : isNumeral c = true) : isStop c = false := by
  rw [← Bool.not_eq_true]
  intro stop
  simp only [isStop, Bool.or_eq_true, beq_iff_eq] at stop
  rcases stop with ((rfl | rfl) | rfl) | rfl <;> exact absurd numeral (by decide)

private theorem isDigit_of_mem_toDigits {n : Nat} {c : Char} (member : c ∈ Nat.toDigits 10 n) :
    c.isDigit = true :=
  Nat.isDigit_of_mem_toDigits (by decide) (by decide) member

theorem isDigit_of_mem_shortest {x : Double} {c : Char} (member : c ∈ (Decimal.shortest x).1) :
    c.isDigit = true := by
  unfold Decimal.shortest at member
  split at member
  · simp at member
  · have kept := (List.dropWhile_sublist _).subset (List.mem_reverse.mp member)
    exact isDigit_of_mem_toDigits (List.mem_reverse.mp kept)

theorem isNumeral_of_mem_positional {digits : List Char}
    (figures : ∀ c ∈ digits, c.isDigit = true) (lead : Int) :
    ∀ c ∈ Decimal.positional digits lead, isNumeral c = true := by
  intro c member
  have point : isNumeral '.' = true := by decide
  have zero : isNumeral '0' = true := by decide
  have figure (inside : c ∈ digits) : isNumeral c = true := isNumeral_of_isDigit (figures c inside)
  unfold Decimal.positional at member
  split at member
  · simp only [List.cons_append, List.nil_append, List.mem_cons, List.mem_append,
      List.mem_replicate] at member
    rcases member with rfl | rfl | ⟨-, rfl⟩ | inside
    · exact zero
    · exact point
    · exact zero
    · exact figure inside
  · dsimp only at member
    split at member
    · simp only [List.mem_append, List.mem_replicate, List.mem_cons, List.not_mem_nil,
        or_false] at member
      rcases member with (inside | ⟨-, rfl⟩) | rfl | rfl
      · exact figure inside
      · exact zero
      · exact point
      · exact zero
    · simp only [List.mem_append, List.mem_singleton] at member
      rcases member with (inside | rfl) | inside
      · exact figure (List.mem_of_mem_take inside)
      · exact point
      · exact figure (List.mem_of_mem_drop inside)

theorem isNumeral_of_mem_scientific {digits : List Char}
    (figures : ∀ c ∈ digits, c.isDigit = true) (lead : Int) :
    ∀ c ∈ Decimal.Style.plain.scientific digits lead, isNumeral c = true := by
  intro c member
  have figure (inside : c ∈ digits) : isNumeral c = true := isNumeral_of_isDigit (figures c inside)
  unfold Decimal.Style.scientific at member
  dsimp only at member
  rcases List.mem_append.mp member with early | power
  · rcases List.mem_append.mp early with earlier | zero
    · rcases List.mem_append.mp earlier with mantissa | mark
      · split at mantissa
        · rw [List.mem_singleton.mp mantissa]
          decide
        · exact figure mantissa
        · simp only [List.mem_cons] at mantissa
          rcases mantissa with rfl | rfl | later
          · exact figure List.mem_cons_self
          · decide
          · exact figure (List.mem_cons_of_mem _ later)
      · simp only [List.mem_cons, List.not_mem_nil, or_false] at mark
        rcases mark with rfl | rfl
        · decide
        · split <;> decide
    · rw [(List.mem_replicate.mp zero).2]
      decide
  · exact isNumeral_of_isDigit (isDigit_of_mem_toDigits power)

theorem isNumeral_of_mem_numberText (n : JsonNumber) : ∀ c ∈ numberText n, isNumeral c = true := by
  intro c member
  cases n with
  | int i =>
    simp only [numberText, Decimal.ofInt, Decimal.ofNat] at member
    split at member
    · rcases List.mem_cons.mp member with rfl | digit
      · decide
      · exact isNumeral_of_isDigit (isDigit_of_mem_toDigits digit)
    · exact isNumeral_of_isDigit (isDigit_of_mem_toDigits member)
  | float x =>
    have figures (c : Char) := isDigit_of_mem_shortest (x := x) (c := c)
    simp only [numberText, Decimal.ofDouble, Decimal.Style.write] at member
    rcases List.mem_append.mp member with sign | body
    · split at sign
      · rw [List.mem_singleton.mp sign]
        decide
      · simp at sign
    · split at body
      · exact isNumeral_of_mem_positional figures _ c body
      · exact isNumeral_of_mem_scientific figures _ c body

theorem numberText_ne_nil (n : JsonNumber) : numberText n ≠ [] := by
  cases n with
  | int i =>
    simp only [numberText, Decimal.ofInt, Decimal.ofNat]
    split
    · simp
    · exact Nat.toDigits_ne_nil
  | float x =>
    simp only [numberText, Decimal.ofDouble, Decimal.Style.write]
    apply List.append_ne_nil_of_right_ne_nil
    split
    · unfold Decimal.positional
      split
      · simp
      · dsimp only
        split <;> simp
    · simp [Decimal.Style.scientific]

end Numbers

section Texts

private def escaped : List Char := '"' :: '\\' :: (List.range 32).map Char.ofNat

private theorem escapeChar_of_plain {c : Char} (plain : c ∉ escaped) : escapeChar c = [c] := by
  have quote : c ≠ '"' := fun same => plain (by simp [escaped, same])
  have slash : c ≠ '\\' := fun same => plain (by simp [escaped, same])
  have high : ¬c.toNat < 32 := by
    intro low
    have member : Char.ofNat c.toNat ∈ escaped := by
      simp only [escaped, List.mem_cons, List.mem_map, List.mem_range]
      exact Or.inr (Or.inr ⟨c.toNat, low, rfl⟩)
    rw [Char.ofNat_toNat] at member
    exact plain member
  simp [escapeChar, quote, slash, high]

private theorem escapeChar_of_escaped {c : Char} (special : c ∈ escaped) :
    (escapeChar c).head? = some '\\' := by
  have checked : (escaped.all fun c => (escapeChar c).head? == some '\\') = true := by decide
  exact beq_iff_eq.mp (List.all_eq_true.mp checked c special)

private theorem eq_of_escapeChar_within {c d : Char} (left : c ∈ escaped) (right : d ∈ escaped)
    (within : escapeChar c <+: escapeChar d) : c = d := by
  have checked : (escaped.all fun c => escaped.all fun d =>
      !(escapeChar c).isPrefixOf (escapeChar d) || c == d) = true := by decide +kernel
  have either := List.all_eq_true.mp (List.all_eq_true.mp checked c left) d right
  rw [List.isPrefixOf_iff_prefix.mpr within, Bool.not_true, Bool.false_or, beq_iff_eq] at either
  exact either

private theorem head?_escapeChar_append (c : Char) (x : List Char) :
    (escapeChar c ++ x).head? = some (if c ∈ escaped then '\\' else c) := by
  split
  next special => rw [List.head?_append, escapeChar_of_escaped special, Option.some_or]
  next plain => rw [escapeChar_of_plain plain, List.singleton_append, List.head?_cons]

theorem escapeChar_append_inj {c d : Char} {x y : List Char}
    (same : escapeChar c ++ x = escapeChar d ++ y) : c = d ∧ x = y := by
  have slash : '\\' ∈ escaped := by decide
  have equal : c = d := by
    have heads := congrArg List.head? same
    rw [head?_escapeChar_append, head?_escapeChar_append, Option.some.injEq] at heads
    split at heads
    next left =>
      split at heads
      next right =>
        have first : escapeChar c <+: escapeChar d ++ y := ⟨x, same⟩
        rcases List.prefix_or_prefix_of_prefix first (List.prefix_append _ y) with within | within
        · exact eq_of_escapeChar_within left right within
        · exact (eq_of_escapeChar_within right left within).symm
      next right => exact absurd (heads ▸ slash) right
    next left =>
      split at heads
      next right => exact absurd (heads ▸ slash) left
      next right => exact heads
  subst equal
  exact ⟨rfl, List.append_cancel_left same⟩

private theorem escapeChar_append_ne_quote (c : Char) (x y : List Char) :
    escapeChar c ++ x ≠ '"' :: y := by
  intro same
  have heads := congrArg List.head? same
  rw [head?_escapeChar_append, List.head?_cons, Option.some.injEq] at heads
  split at heads
  next => exact absurd heads (by decide)
  next plain => exact plain (heads ▸ by decide)

theorem escapedText_append_inj {s t x y : List Char}
    (same : s.flatMap escapeChar ++ '"' :: x = t.flatMap escapeChar ++ '"' :: y) :
    s = t ∧ x = y := by
  induction s generalizing t with
  | nil =>
    cases t with
    | nil => exact ⟨rfl, (List.cons.inj same).2⟩
    | cons d t =>
      rw [List.flatMap_cons, List.append_assoc] at same
      exact absurd same.symm (escapeChar_append_ne_quote d _ x)
  | cons c s ih =>
    cases t with
    | nil =>
      rw [List.flatMap_cons, List.append_assoc] at same
      exact absurd same (escapeChar_append_ne_quote c _ y)
    | cons d t =>
      rw [List.flatMap_cons, List.flatMap_cons, List.append_assoc, List.append_assoc] at same
      obtain ⟨rfl, rest⟩ := escapeChar_append_inj same
      obtain ⟨rfl, onward⟩ := ih rest
      exact ⟨rfl, onward⟩

theorem quoteText_append_inj {s t : String} {x y : List Char}
    (same : quoteText s ++ x = quoteText t ++ y) : s = t ∧ x = y := by
  simp only [quoteText, List.cons_append, List.append_assoc, List.nil_append, List.cons.injEq,
    true_and] at same
  obtain ⟨texts, rest⟩ := escapedText_append_inj same
  exact ⟨String.toList_injective texts, rest⟩

end Texts

section Values

mutual

def blurred : Json → Json
  | .null => .null
  | .bool b => .bool b
  | .number _ => .number (.int 0)
  | .string s => .string s
  | .array items => .array (blurredItems items)
  | .object members => .object (blurredMembers members)

def blurredItems : List Json → List Json
  | [] => []
  | item :: items => blurred item :: blurredItems items

def blurredMembers : List (String × Json) → List (String × Json)
  | [] => []
  | (key, value) :: members => (key, blurred value) :: blurredMembers members

end

def mark : Json → Char
  | .null => 'n'
  | .bool _ => 'b'
  | .number _ => '0'
  | .string _ => '"'
  | .array _ => '['
  | .object _ => '\x7b'

def kindOf (c : Char) : Char :=
  if isNumeral c then '0' else if c = 't' ∨ c = 'f' then 'b' else c

theorem print_opens (v : Json) : ∃ c rest, print v = c :: rest ∧ kindOf c = v.mark := by
  cases v with
  | null => exact ⟨'n', _, rfl, rfl⟩
  | bool b =>
    cases b with
    | true => exact ⟨'t', _, rfl, rfl⟩
    | false => exact ⟨'f', _, rfl, rfl⟩
  | number n =>
    obtain ⟨c, rest, text⟩ := List.exists_cons_of_ne_nil (numberText_ne_nil n)
    have numeral := isNumeral_of_mem_numberText n c (by rw [text]; exact List.mem_cons_self)
    exact ⟨c, rest, by rw [print, text], by simp [kindOf, numeral, mark]⟩
  | string s => exact ⟨'"', _, by rw [print, quoteText, List.cons_append], rfl⟩
  | array items =>
    cases items with
    | nil => exact ⟨'[', _, rfl, rfl⟩
    | cons item items => exact ⟨'[', _, by rw [print, List.cons_append, List.cons_append], rfl⟩
  | object members =>
    cases members with
    | nil => exact ⟨'\x7b', _, rfl, rfl⟩
    | cons member members => exact ⟨'\x7b', _, by simp only [print, List.cons_append]; rfl, rfl⟩

theorem mark_eq_of_append_eq {a b : Json} {x y : List Char}
    (same : print a ++ x = print b ++ y) : a.mark = b.mark := by
  obtain ⟨c, rest, left, kind⟩ := print_opens a
  obtain ⟨d, more, right, other⟩ := print_opens b
  rw [left, right] at same
  rw [← kind, ← other, (List.cons.inj same).1]

theorem print_append_ne_close (v : Json) (x y : List Char) : print v ++ x ≠ ']' :: y := by
  intro same
  obtain ⟨c, rest, text, kind⟩ := print_opens v
  rw [text] at same
  have close : kindOf ']' = ']' := by decide
  rw [(List.cons.inj same).1, close] at kind
  cases v <;> simp [mark] at kind

private theorem printItems_ended (items : List Json) (x : List Char) :
    Ended (printItems items ++ ']' :: x) := by
  cases items with
  | nil => exact ended_cons x (by decide)
  | cons item items =>
    rw [printItems, List.cons_append, List.cons_append]
    exact ended_cons _ (by decide)

private theorem printMembers_ended (members : List (String × Json)) (x : List Char) :
    Ended (printMembers members ++ '\x7d' :: x) := by
  cases members with
  | nil => exact ended_cons x (by decide)
  | cons member members =>
    simp only [printMembers, List.cons_append]
    exact ended_cons _ (by decide)

mutual

/-- The text of a value tells where it ends and, but for numbers, the value. -/
theorem print_append_inj (a b : Json) {x y : List Char} (leftEnds : Ended x) (rightEnds : Ended y)
    (same : print a ++ x = print b ++ y) : a.blurred = b.blurred ∧ x = y := by
  -- Values of two kinds open with different characters.
  have kinds := mark_eq_of_append_eq same
  cases a with
  | null =>
    cases b with
    | null => exact ⟨rfl, List.append_cancel_left same⟩
    | _ => simp [mark] at kinds
  | bool p =>
    cases b with
    | bool q => cases p <;> cases q <;> simp_all [print]
    | _ => simp [mark] at kinds
  | number n =>
    cases b with
    | number m =>
      have words (k : JsonNumber) (c : Char) (member : c ∈ numberText k) : isStop c = false :=
        isStop_of_isNumeral (isNumeral_of_mem_numberText k c member)
      exact ⟨rfl, (word_append_inj isStop (words n) (words m) leftEnds rightEnds same).2⟩
    | _ => simp [mark] at kinds
  | string s =>
    cases b with
    | string t =>
      obtain ⟨rfl, rest⟩ := quoteText_append_inj same
      exact ⟨rfl, rest⟩
    | _ => simp [mark] at kinds
  | array items =>
    cases b with
    | array others =>
      cases items with
      | nil =>
        cases others with
        | nil => exact ⟨rfl, List.append_cancel_left same⟩
        | cons other others =>
          simp only [print, List.cons_append, List.append_assoc, List.nil_append,
            List.cons.injEq, true_and] at same
          exact absurd same.symm (print_append_ne_close other _ x)
      | cons item items =>
        cases others with
        | nil =>
          simp only [print, List.cons_append, List.append_assoc, List.nil_append,
            List.cons.injEq, true_and] at same
          exact absurd same (print_append_ne_close item _ y)
        | cons other others =>
          simp only [print, List.cons_append, List.append_assoc, List.nil_append,
            List.cons.injEq, true_and] at same
          obtain ⟨first, rest⟩ := print_append_inj item other (printItems_ended items x)
            (printItems_ended others y) same
          obtain ⟨later, onward⟩ := printItems_append_inj items others rest
          exact ⟨by simp only [blurred, blurredItems, first, later], onward⟩
    | _ => simp [mark] at kinds
  | object members =>
    cases b with
    | object others =>
      cases members with
      | nil =>
        cases others with
        | nil => exact ⟨rfl, List.append_cancel_left same⟩
        | cons other others => simp [print, quoteText] at same
      | cons member members =>
        cases others with
        | nil => simp [print, quoteText] at same
        | cons other others =>
          obtain ⟨key, value⟩ := member
          obtain ⟨name, held⟩ := other
          simp only [print, List.cons_append, List.append_assoc, List.nil_append,
            List.cons.injEq, true_and] at same
          obtain ⟨rfl, text⟩ := quoteText_append_inj same
          obtain ⟨first, rest⟩ := print_append_inj value held (printMembers_ended members x)
            (printMembers_ended others y) (List.cons.inj text).2
          obtain ⟨later, onward⟩ := printMembers_append_inj members others rest
          exact ⟨by simp only [blurred, blurredMembers, first, later], onward⟩
    | _ => simp [mark] at kinds

private theorem printItems_append_inj (items others : List Json) {x y : List Char}
    (same : printItems items ++ ']' :: x = printItems others ++ ']' :: y) :
    blurredItems items = blurredItems others ∧ x = y := by
  cases items with
  | nil =>
    cases others with
    | nil => exact ⟨rfl, (List.cons.inj same).2⟩
    | cons other others => simp [printItems] at same
  | cons item items =>
    cases others with
    | nil => simp [printItems] at same
    | cons other others =>
      simp only [printItems, List.cons_append, List.append_assoc, List.cons.injEq,
        true_and] at same
      obtain ⟨first, rest⟩ := print_append_inj item other (printItems_ended items x)
        (printItems_ended others y) same
      obtain ⟨later, onward⟩ := printItems_append_inj items others rest
      exact ⟨by simp only [blurredItems, first, later], onward⟩

private theorem printMembers_append_inj (members others : List (String × Json)) {x y : List Char}
    (same : printMembers members ++ '\x7d' :: x = printMembers others ++ '\x7d' :: y) :
    blurredMembers members = blurredMembers others ∧ x = y := by
  cases members with
  | nil =>
    cases others with
    | nil => exact ⟨rfl, (List.cons.inj same).2⟩
    | cons other others => simp [printMembers] at same
  | cons member members =>
    cases others with
    | nil => simp [printMembers] at same
    | cons other others =>
      obtain ⟨key, value⟩ := member
      obtain ⟨name, held⟩ := other
      simp only [printMembers, List.cons_append, List.append_assoc, List.cons.injEq,
        true_and] at same
      obtain ⟨rfl, text⟩ := quoteText_append_inj same
      obtain ⟨first, rest⟩ := print_append_inj value held (printMembers_ended members x)
        (printMembers_ended others y) (List.cons.inj text).2
      obtain ⟨later, onward⟩ := printMembers_append_inj members others rest
      exact ⟨by simp only [blurredMembers, first, later], onward⟩

end

end Values

end PathAudit.Json
