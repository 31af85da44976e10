import PathAudit.Drawing.Dot

/-! The words of the DOT language, as an automaton that goes through a document character by
character. A quoted string ends at the first quote without a backslash before it, a string in angle
brackets where the brackets are even; between them stand words, arrows and signs. Of the language
this is what a drawing needs: comments, decimal fractions and other escapes are not read at all. -/
namespace PathAudit.Dot

inductive Token where
  | word (text : String)
  | quoted (text : String)
  | markup (text : String)
  | arrow
  | sign (c : Char)
  deriving DecidableEq, Repr, Inhabited

/-- Where the reading of a document stands. What has been read of the token at hand comes last
character first. -/
inductive Stand where
  | between
  | word (read : List Char)
  | dash
  | quoted (read : List Char)
  | escaped (read : List Char)
  | markup (depth : Nat) (read : List Char)
  deriving DecidableEq, Repr, Inhabited

def blanks : List Char := [' ', '\t', '\r', '\n']

def signs : List Char := ['\x7b', '\x7d', '[', ']', '=', ';', ',']

def isWordChar (c : Char) : Bool := c.isAlphanum || c == '_' || 128 ≤ c.toNat

def unescaped? (c : Char) : Option Char :=
  if c = 'n' then some '\n'
  else if c = '"' ∨ c = '\\' then some c
  else none

def opening (c : Char) : Option (List Token × Stand) :=
  if blanks.contains c then some ([], .between)
  else if c = '"' then some ([], .quoted [])
  else if c = '<' then some ([], .markup 0 [])
  else if c = '-' then some ([], .dash)
  else if signs.contains c then some ([.sign c], .between)
  else if isWordChar c then some ([], .word [c])
  else none

/-- The tokens that a character closes, and where the reading stands after it. -/
def follow : Stand → Char → Option (List Token × Stand)
  | .between, c => opening c
  | .word read, c =>
    if isWordChar c then some ([], .word (c :: read))
    else
      (opening c).map fun (tokens, next) => (.word (String.ofList read.reverse) :: tokens, next)
  | .dash, c => if c = '>' then some ([.arrow], .between) else none
  | .quoted read, c =>
    if c = '"' then some ([.quoted (String.ofList read.reverse)], .between)
    else if c = '\\' then some ([], .escaped read)
    else some ([], .quoted (c :: read))
  | .escaped read, c => (unescaped? c).map fun d => ([], .quoted (d :: read))
  | .markup depth read, c =>
    if c = '<' then some ([], .markup (depth + 1) (c :: read))
    else if c = '>' then
      match depth with
      | 0 => some ([.markup (String.ofList read.reverse)], .between)
      | depth + 1 => some ([], .markup depth (c :: read))
    else some ([], .markup depth (c :: read))

def scan : Stand → List Char → Option (List Token × Stand)
  | stand, [] => some ([], stand)
  | stand, c :: rest => do
    let (tokens, next) ← follow stand c
    let (more, last) ← scan next rest
    return (tokens ++ more, last)

def tokens? (text : String) : Option (List Token) :=
  match scan .between text.toList with
  | some (tokens, .between) => some tokens
  | _ => none

/-- Going through the text from one place to another gives the tokens. -/
def Reads (stand : Stand) (text : List Char) (tokens : List Token) (last : Stand) : Prop :=
  scan stand text = some (tokens, last)

section Reading
variable {stand next last : Stand} {text rest : List Char} {tokens more : List Token}

theorem Reads.nil (stand : Stand) : Reads stand [] [] stand := rfl

theorem Reads.cons {c : Char} (first : follow stand c = some (tokens, next))
    (onward : Reads next rest more last) : Reads stand (c :: rest) (tokens ++ more) last := by
  rw [Reads] at onward
  simp only [Reads, scan, first, onward, Option.bind_eq_bind, Option.bind_some, Option.pure_def]

theorem Reads.within {c : Char} (first : follow stand c = some ([], next))
    (onward : Reads next rest more last) : Reads stand (c :: rest) more last :=
  .cons first onward

theorem Reads.append (first : Reads stand text tokens next)
    (onward : Reads next rest more last) :
    Reads stand (text ++ rest) (tokens ++ more) last := by
  induction text generalizing stand tokens with
  | nil =>
    obtain ⟨rfl, rfl⟩ := Prod.mk.inj (Option.some.inj first)
    exact onward
  | cons c text ih =>
    obtain ⟨⟨closed, middle⟩, followed, first⟩ := Option.bind_eq_some_iff.mp first
    obtain ⟨⟨later, stop⟩, scanned, same⟩ := Option.bind_eq_some_iff.mp first
    obtain ⟨rfl, rfl⟩ := Prod.mk.inj (Option.some.inj same)
    rw [List.cons_append, List.append_assoc]
    exact .cons followed (ih scanned)

theorem Reads.flatMap {α : Type} {items : List α} {write : α → List Char} {read : α → List Token}
    (each : ∀ item ∈ items, Reads .between (write item) (read item) .between) :
    Reads .between (items.flatMap write) (items.flatMap read) .between := by
  induction items with
  | nil => exact .nil _
  | cons item items ih =>
    rw [List.flatMap_cons, List.flatMap_cons]
    exact (each item List.mem_cons_self).append
      (ih fun other member => each other (List.mem_cons_of_mem _ member))

theorem Reads.tokens? {text : String} (read : Reads .between text.toList tokens .between) :
    tokens? text = some tokens := by
  rw [Dot.tokens?, read]

end Reading

section Quoting

theorem reads_quoteChar (read : List Char) (c : Char) :
    Reads (.quoted read) (quoteChar c) [] (.quoted (c :: read)) := by
  unfold quoteChar
  split
  next slash => subst slash; rfl
  split
  next mark => subst mark; rfl
  split
  next feed => subst feed; rfl
  next noSlash noMark _ =>
    have kept : follow (.quoted read) c = some ([], .quoted (c :: read)) := by
      simp only [follow, noSlash, noMark, if_false]
    exact .within kept (.nil _)

theorem reads_quoteText (read text : List Char) :
    Reads (.quoted read) (text.flatMap quoteChar) [] (.quoted (text.reverse ++ read)) := by
  induction text generalizing read with
  | nil => exact .nil _
  | cons c text ih =>
    rw [List.flatMap_cons, List.reverse_cons, List.append_assoc]
    exact (reads_quoteChar read c).append (ih (c :: read))

theorem reads_quote (s : String) : Reads .between (quote s) [.quoted s] .between := by
  have opened : Reads .between ('"' :: s.toList.flatMap quoteChar) []
      (.quoted (s.toList.reverse ++ [])) := .within rfl (reads_quoteText [] s.toList)
  have closed : Reads (.quoted (s.toList.reverse ++ [])) ['"'] [.quoted s] .between := by
    rw [Reads, List.append_nil]
    simp [scan, follow]
  exact opened.append closed

end Quoting

section Brackets

/-- Text that opens and closes the same number of brackets and never closes one it did not open. -/
def Balanced (text : List Char) : Prop :=
  ∀ depth read, Reads (.markup depth read) text [] (.markup depth (text.reverse ++ read))

theorem balanced_nil : Balanced [] := fun _ _ => .nil _

theorem Balanced.append {left right : List Char} (first : Balanced left)
    (second : Balanced right) : Balanced (left ++ right) := by
  intro depth read
  rw [List.reverse_append, List.append_assoc]
  exact (first depth read).append (second depth _)

theorem Balanced.flatMap {α : Type} {items : List α} {write : α → List Char}
    (each : ∀ item, Balanced (write item)) : Balanced (items.flatMap write) := by
  induction items with
  | nil => exact balanced_nil
  | cons item items ih =>
    rw [List.flatMap_cons]
    exact (each item).append ih

theorem Balanced.join {separator : List Char} {pieces : List (List Char)}
    (between : Balanced separator) (each : ∀ piece ∈ pieces, Balanced piece) :
    Balanced (Text.join separator pieces) := by
  induction pieces with
  | nil => exact balanced_nil
  | cons piece pieces ih =>
    have first := each piece List.mem_cons_self
    have others := ih fun other member => each other (List.mem_cons_of_mem _ member)
    cases pieces with
    | nil => exact first
    | cons next pieces => exact (first.append between).append others

def isEven : Nat → List Char → Bool
  | depth, [] => depth == 0
  | depth, c :: rest =>
    if c = '<' then isEven (depth + 1) rest
    else if c = '>' then depth != 0 && isEven (depth - 1) rest
    else isEven depth rest

private theorem reads_even (outer depth : Nat) {text : List Char} (even : isEven depth text = true)
    (read : List Char) :
    Reads (.markup (outer + depth) read) text [] (.markup outer (text.reverse ++ read)) := by
  induction text generalizing depth read with
  | nil =>
    obtain rfl : depth = 0 := by simpa [isEven] using even
    exact .nil _
  | cons c text ih =>
    rw [List.reverse_cons, List.append_assoc]
    unfold isEven at even
    split at even
    next opens =>
      subst opens
      exact .within rfl (ih (depth + 1) even ('<' :: read))
    split at even
    next closes =>
      subst closes
      obtain ⟨some, even⟩ := Bool.and_eq_true_iff.mp even
      obtain ⟨depth, rfl⟩ := Nat.exists_eq_succ_of_ne_zero (by simpa using some)
      exact .within rfl (ih depth even ('>' :: read))
    next noOpening noClosing =>
      have kept : follow (.markup (outer + depth) read) c =
          some ([], .markup (outer + depth) (c :: read)) := by
        simp only [follow, noOpening, noClosing, if_false]
      exact .within kept (ih depth even (c :: read))

theorem balanced_of_even {text : List Char} (even : isEven 0 text = true) : Balanced text :=
  fun depth => reads_even depth 0 even

theorem isEven_insert (depth : Nat) (left right : List Char) {text : List Char}
    (free : ∀ c ∈ text, c ≠ '<' ∧ c ≠ '>') :
    isEven depth (left ++ (text ++ right)) = isEven depth (left ++ right) := by
  induction left generalizing depth with
  | nil =>
    induction text with
    | nil => rfl
    | cons c text ih =>
      obtain ⟨noOpening, noClosing⟩ := free c List.mem_cons_self
      rw [List.nil_append, List.cons_append, isEven, if_neg noOpening, if_neg noClosing]
      exact ih fun d member => free d (List.mem_cons_of_mem _ member)
  | cons c left ih => simp only [List.cons_append, isEven, ih]

theorem isEven_of_free {text : List Char} (free : ∀ c ∈ text, c ≠ '<' ∧ c ≠ '>') :
    isEven 0 text = true := by
  have nothing := isEven_insert 0 [] [] free
  rwa [List.nil_append, List.append_nil] at nothing

theorem Balanced.closed {text rest : List Char} {tokens : List Token} {last : Stand}
    (balanced : Balanced text) (onward : Reads .between rest tokens last) :
    Reads (.markup 0 []) (text ++ '>' :: rest) (.markup (String.ofList text) :: tokens) last := by
  have bracket : follow (.markup 0 (text.reverse ++ [])) '>' =
      some ([.markup (String.ofList text)], .between) := by
    simp [follow]
  exact (balanced 0 []).append (.cons bracket onward)

theorem free_markupChar (c : Char) : ∀ d ∈ markupChar c, d ≠ '<' ∧ d ≠ '>' := by
  unfold markupChar
  split
  · simp
  split
  · simp
  next noOpening =>
  split
  · simp
  next noClosing =>
  split
  · simp
  · intro d same
    rw [List.mem_singleton.mp same]
    exact ⟨noOpening, noClosing⟩

theorem balanced_markup (text : List Char) : Balanced (markup text) := by
  refine balanced_of_even (isEven_of_free fun d member => ?_)
  obtain ⟨c, -, written⟩ := List.mem_flatMap.mp member
  exact free_markupChar c d written

theorem balanced_cellText (s : String) : Balanced (cellText s) := by
  refine Balanced.join (fun _ _ => rfl) fun piece member => ?_
  obtain ⟨line, -, rfl⟩ := List.mem_map.mp member
  exact balanced_markup line

end Brackets

end PathAudit.Dot
