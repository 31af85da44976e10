import PathAudit.Proofs.Json.Grammar

/-! Quotes in JSON texts. At each place of a text one is outside its strings, inside one of them or
behind a backslash, and under so many brackets. A passage that can be gone through both from outside
and from inside a string has no letters but those of the three words, and no backslash. -/
namespace PathAudit.Raw

inductive Mode where
  | outside
  | inside
  | escaping
  deriving DecidableEq, Repr

structure Position where
  mode : Mode
  depth : Nat
  deriving DecidableEq, Repr

def isPlain (c : Char) : Bool :=
  isSpace c || isFigure c || [',', ':', 'n', 'u', 'l', 't', 'r', 'f', 'a', 's'].contains c

def isOuter (c : Char) : Bool := c == '\x7b' || c == '[' || c == '\x7d' || c == ']' || isPlain c

/-- One character on. Where no bracket is open, the text is over. -/
def Position.next : Position → Char → Option Position
  | ⟨.outside, 0⟩, _ => none
  | ⟨.outside, d + 1⟩, c =>
    if c = '"' then some ⟨.inside, d + 1⟩
    else if c = '\x7b' ∨ c = '[' then some ⟨.outside, d + 2⟩
    else if c = '\x7d' ∨ c = ']' then some ⟨.outside, d⟩
    else if isPlain c then some ⟨.outside, d + 1⟩
    else none
  | ⟨.inside, d⟩, c =>
    if c = '"' then some ⟨.outside, d⟩
    else if c = '\\' then some ⟨.escaping, d⟩
    else if c.toNat < 32 then none
    else some ⟨.inside, d⟩
  | ⟨.escaping, d⟩, c => if c = 'u' ∨ (simpleEscape? c).isSome then some ⟨.inside, d⟩ else none

def Position.follow (p : Position) (s : List Char) : Option Position := s.foldlM Position.next p

theorem follow_append_eq_some {p q : Position} {s t : List Char} :
    p.follow (s ++ t) = some q ↔ ∃ r, p.follow s = some r ∧ r.follow t = some q := by
  simp [Position.follow, List.foldlM_append, Option.bind_eq_some_iff]

theorem follow_cons_eq_some {p q : Position} {c : Char} {t : List Char} :
    p.follow (c :: t) = some q ↔ ∃ r, p.next c = some r ∧ r.follow t = some q := by
  simp [Position.follow, List.foldlM_cons, Option.bind_eq_some_iff]

section Steps
variable {p q : Position} {d : Nat} {c : Char}

theorem next_outside (step : Position.next ⟨.outside, d⟩ c = some q) :
    c = '"' ∧ q = ⟨.inside, d⟩ ∨ isOuter c = true ∧ q.mode = .outside := by
  cases d with
  | zero => contradiction
  | succ d =>
    simp only [Position.next] at step
    split at step
    next quote => exact .inl ⟨quote, (Option.some.inj step).symm⟩
    split at step
    next opening =>
      obtain rfl := Option.some.inj step
      rcases opening with rfl | rfl <;> exact .inr ⟨by decide, rfl⟩
    split at step
    next closing =>
      obtain rfl := Option.some.inj step
      rcases closing with rfl | rfl <;> exact .inr ⟨by decide, rfl⟩
    split at step
    next plain =>
      obtain rfl := Option.some.inj step
      exact .inr ⟨by simp [isOuter, plain], rfl⟩
    · contradiction

theorem next_inside (step : Position.next ⟨.inside, d⟩ c = some q) :
    c = '"' ∧ q = ⟨.outside, d⟩ ∨ c = '\\' ∧ q = ⟨.escaping, d⟩ ∨
      c ≠ '"' ∧ c ≠ '\\' ∧ 32 ≤ c.toNat ∧ q = ⟨.inside, d⟩ := by
  simp only [Position.next] at step
  split at step
  next quote => exact .inl ⟨quote, (Option.some.inj step).symm⟩
  next unquoted =>
    split at step
    next backslash => exact .inr (.inl ⟨backslash, (Option.some.inj step).symm⟩)
    next unescaped =>
      split at step
      · contradiction
      next printing =>
        exact .inr (.inr ⟨unquoted, unescaped, by omega, (Option.some.inj step).symm⟩)

theorem next_escaping (step : Position.next ⟨.escaping, d⟩ c = some q) :
    (c = 'u' ∨ (simpleEscape? c).isSome = true) ∧ q = ⟨.inside, d⟩ := by
  simp only [Position.next] at step
  split at step
  next known => exact ⟨known, (Option.some.inj step).symm⟩
  · contradiction

theorem next_plain (plain : isPlain c = true) (d : Nat) :
    Position.next ⟨.outside, d + 1⟩ c = some ⟨.outside, d + 1⟩ := by
  have other {b : Char} (marked : isPlain b = false) : c ≠ b := by
    rintro rfl
    rw [plain] at marked
    contradiction
  simp [Position.next, plain, other (b := '"') (by decide), other (b := '\x7b') (by decide),
    other (b := '[') (by decide), other (b := '\x7d') (by decide), other (b := ']') (by decide)]

end Steps

theorem follow_plain {s : List Char} (plain : ∀ c ∈ s, isPlain c = true) (d : Nat) :
    Position.follow ⟨.outside, d + 1⟩ s = some ⟨.outside, d + 1⟩ := by
  induction s with
  | nil => rfl
  | cons c s ih =>
    obtain ⟨first, rest⟩ := List.forall_mem_cons.mp plain
    exact follow_cons_eq_some.mpr ⟨_, next_plain first d, ih rest⟩

theorem isPlain_of_isSpace {c : Char} (space : isSpace c = true) : isPlain c = true := by
  simp [isPlain, space]

theorem isPlain_of_isFigure {c : Char} (figure : isFigure c = true) : isPlain c = true := by
  simp [isPlain, figure]

theorem follow_spaces {s : List Char} (spaces : Spaces s) (d : Nat) :
    Position.follow ⟨.outside, d + 1⟩ s = some ⟨.outside, d + 1⟩ :=
  follow_plain (fun c member => isPlain_of_isSpace (spaces c member)) d

theorem follow_inside {s : List Char}
    (printing : ∀ c ∈ s, c ≠ '"' ∧ c ≠ '\\' ∧ 32 ≤ c.toNat) (d : Nat) :
    Position.follow ⟨.inside, d⟩ s = some ⟨.inside, d⟩ := by
  induction s with
  | nil => rfl
  | cons c s ih =>
    obtain ⟨⟨unquoted, unescaped, shown⟩, rest⟩ := List.forall_mem_cons.mp printing
    refine follow_cons_eq_some.mpr ⟨⟨.inside, d⟩, ?_, ih rest⟩
    simp [Position.next, unquoted, unescaped, Nat.not_lt.mpr shown]

theorem Spells.printing {hex : List Char} {n : Nat} (spells : Spells hex n) :
    ∀ c ∈ hex, c ≠ '"' ∧ c ≠ '\\' ∧ 32 ≤ c.toNat := by
  intro c member
  have digit := spells.digits c member
  refine ⟨?_, ?_, ?_⟩
  · rintro rfl
    exact absurd digit (by decide)
  · rintro rfl
    exact absurd digit (by decide)
  · have from_zero : '0' ≤ c := by
      unfold Utf8.hexDigit? at digit
      split at digit
      next range => exact range.1
      split at digit
      next range => exact Char.le_trans (by decide) range.1
      split at digit
      next range => exact Char.le_trans (by decide) range.1
      · contradiction
    exact Nat.le_trans (by decide) from_zero

theorem Escape.follow {escape : List Char} {c : Char} (known : Escape escape c) (d : Nat) :
    Position.follow ⟨.escaping, d⟩ escape = some ⟨.inside, d⟩ := by
  cases known with
  | simple known => simp [Position.follow, Position.next, known]
  | code spells whole =>
    exact follow_cons_eq_some.mpr ⟨⟨.inside, d⟩, rfl, follow_inside spells.printing d⟩
  | pair first second leading trailing =>
    refine follow_cons_eq_some.mpr ⟨⟨.inside, d⟩, rfl, follow_append_eq_some.mpr
      ⟨⟨.inside, d⟩, follow_inside first.printing d, follow_cons_eq_some.mpr
        ⟨⟨.escaping, d⟩, rfl, follow_cons_eq_some.mpr
          ⟨⟨.inside, d⟩, rfl, follow_inside second.printing d⟩⟩⟩⟩

theorem Body.follow {text value : List Char} (body : Body text value) (d : Nat) :
    Position.follow ⟨.inside, d⟩ text = some ⟨.outside, d⟩ := by
  induction body with
  | closed => rfl
  | plain unquoted unescaped printing more ih =>
    refine follow_cons_eq_some.mpr ⟨⟨.inside, d⟩, ?_, ih⟩
    simp [Position.next, unquoted, unescaped, Nat.not_lt.mpr printing]
  | escaped known more ih =>
    exact follow_cons_eq_some.mpr
      ⟨⟨.escaping, d⟩, rfl, follow_append_eq_some.mpr ⟨⟨.inside, d⟩, known.follow d, ih⟩⟩

theorem Lead.follow {first : Bool} {lead : List Char} (opened : Lead first lead) (d : Nat) :
    Position.follow ⟨.outside, d + 1⟩ lead = some ⟨.outside, d + 1⟩ := by
  cases opened with
  | first spaces => exact follow_spaces spaces d
  | next left right =>
    exact follow_append_eq_some.mpr ⟨_, follow_spaces left d,
      follow_cons_eq_some.mpr ⟨_, next_plain (by decide) d, follow_spaces right d⟩⟩

/-- A value ends under the brackets it began under, and what is left of an array or an object closes
one of them. -/
def Follows : Piece → List Char → Prop
  | .value _, text => ∀ d, Position.follow ⟨.outside, d + 1⟩ text = some ⟨.outside, d + 1⟩
  | _, text => ∀ d, Position.follow ⟨.outside, d + 1⟩ text = some ⟨.outside, d⟩

theorem Written.follows {piece : Piece} {text : List Char} (written : Written piece text) :
    Follows piece text := by
  induction written with
  | null | yes | no => exact follow_plain (List.all_eq_true.mp (by decide))
  | number digit taken =>
    exact follow_plain fun c member => isPlain_of_isFigure (taken.figures c member)
  | negative digit taken =>
    refine follow_plain (List.forall_mem_cons.mpr ⟨by decide, fun c member => ?_⟩)
    exact isPlain_of_isFigure (taken.figures c member)
  | string body =>
    intro d
    exact follow_cons_eq_some.mpr ⟨⟨.inside, d + 1⟩, rfl, body.follow (d + 1)⟩
  | array items ih =>
    intro d
    exact follow_cons_eq_some.mpr ⟨⟨.outside, d + 2⟩, rfl, ih (d + 1)⟩
  | object members ih =>
    intro d
    exact follow_cons_eq_some.mpr ⟨⟨.outside, d + 2⟩, rfl, ih (d + 1)⟩
  | noItem first spaces =>
    intro d
    exact follow_append_eq_some.mpr ⟨_, follow_spaces spaces d, rfl⟩
  | noMember first spaces =>
    intro d
    exact follow_append_eq_some.mpr ⟨_, follow_spaces spaces d, rfl⟩
  | item opened head tail headFollows tailFollows =>
    intro d
    exact follow_append_eq_some.mpr
      ⟨_, opened.follow d, follow_append_eq_some.mpr ⟨_, headFollows d, tailFollows d⟩⟩
  | member opened body left right head tail headFollows tailFollows =>
    intro d
    refine follow_append_eq_some.mpr ⟨_, opened.follow d, ?_⟩
    refine follow_cons_eq_some.mpr ⟨⟨.inside, d + 1⟩, rfl, ?_⟩
    refine follow_append_eq_some.mpr ⟨_, body.follow (d + 1), ?_⟩
    refine follow_append_eq_some.mpr ⟨_, follow_spaces left d, ?_⟩
    refine follow_cons_eq_some.mpr ⟨_, next_plain (by decide) d, ?_⟩
    refine follow_append_eq_some.mpr ⟨_, follow_spaces right d, ?_⟩
    exact follow_append_eq_some.mpr ⟨_, headFollows d, tailFollows d⟩

section Mirror

def Opposed (p q : Position) : Prop :=
  p.mode = .inside ∧ q.mode = .outside ∨ p.mode = .outside ∧ q.mode = .inside

theorem opposed_comm {p q : Position} : Opposed p q ↔ Opposed q p := by
  unfold Opposed
  tauto

theorem next_opposed {c : Char} {d e : Nat} {p q : Position}
    (within : Position.next ⟨.inside, d⟩ c = some p)
    (without : Position.next ⟨.outside, e⟩ c = some q) :
    Opposed p q ∧ (c = '"' ∨ isOuter c = true) := by
  obtain ⟨rfl, rfl⟩ | ⟨outer, mode⟩ := next_outside without
  · obtain ⟨-, rfl⟩ | ⟨other, -⟩ | ⟨other, -⟩ := next_inside within
    · exact ⟨.inr ⟨rfl, rfl⟩, .inl rfl⟩
    · contradiction
    · contradiction
  · obtain ⟨rfl, -⟩ | ⟨rfl, -⟩ | ⟨-, -, -, rfl⟩ := next_inside within
    · exact absurd outer (by decide)
    · exact absurd outer (by decide)
    · exact ⟨.inl ⟨rfl, mode⟩, .inr outer⟩

/-- From opposed places the same text leads to opposed places, and quotes are all that it has of the
characters that stand in strings only. -/
theorem follow_opposed {p q : Position} (opposed : Opposed p q) {s : List Char} {p' q' : Position}
    (left : p.follow s = some p') (right : q.follow s = some q') :
    Opposed p' q' ∧ ∀ c ∈ s, c = '"' ∨ isOuter c = true := by
  induction s generalizing p q with
  | nil =>
    cases left
    cases right
    exact ⟨opposed, by simp⟩
  | cons c s ih =>
    obtain ⟨r, step, onward⟩ := follow_cons_eq_some.mp left
    obtain ⟨r', step', onward'⟩ := follow_cons_eq_some.mp right
    obtain ⟨again, shared⟩ : Opposed r r' ∧ (c = '"' ∨ isOuter c = true) := by
      obtain ⟨mode, depth⟩ := p
      obtain ⟨mode', depth'⟩ := q
      obtain ⟨rfl, rfl⟩ | ⟨rfl, rfl⟩ := opposed
      · exact next_opposed step step'
      · obtain ⟨again, shared⟩ := next_opposed step' step
        exact ⟨opposed_comm.mp again, shared⟩
    obtain ⟨last, all⟩ := ih again onward onward'
    exact ⟨last, List.forall_mem_cons.mpr ⟨shared, all⟩⟩

end Mirror

section Marks
variable {p q : Position} {c : Char}

/-- Where a character that has no place outside of strings was passed, a string is open. -/
theorem next_foreign (foreign : isOuter c = false) (unquoted : c ≠ '"') (unescaped : c ≠ '\\')
    (step : p.next c = some q) : q.mode = .inside := by
  obtain ⟨mode, depth⟩ := p
  cases mode with
  | outside =>
    obtain ⟨rfl, -⟩ | ⟨outer, -⟩ := next_outside step
    · contradiction
    · rw [foreign] at outer
      contradiction
  | inside =>
    obtain ⟨rfl, -⟩ | ⟨rfl, -⟩ | ⟨-, -, -, rfl⟩ := next_inside step
    · contradiction
    · contradiction
    · rfl
  | escaping =>
    obtain ⟨-, rfl⟩ := next_escaping step
    rfl

theorem inside_of_mark {s : List Char} (foreign : isOuter c = false) (unquoted : c ≠ '"')
    (unescaped : c ≠ '\\') (followed : p.follow (s ++ [c]) = some q) : q.mode = .inside := by
  obtain ⟨r, -, last⟩ := follow_append_eq_some.mp followed
  obtain ⟨_, step, stopped⟩ := follow_cons_eq_some.mp last
  obtain rfl := Option.some.inj stopped
  exact next_foreign foreign unquoted unescaped step

theorem inside_of_follow {s : List Char} (unmarked : ∀ c ∈ s, c ≠ '"' ∧ c ≠ '\\')
    (within : p.mode = .inside) (followed : p.follow s = some q) : q.mode = .inside := by
  induction s generalizing p with
  | nil =>
    cases followed
    exact within
  | cons c s ih =>
    obtain ⟨⟨unquoted, unescaped⟩, rest⟩ := List.forall_mem_cons.mp unmarked
    obtain ⟨r, step, onward⟩ := follow_cons_eq_some.mp followed
    obtain ⟨mode, depth⟩ := p
    cases within
    obtain ⟨rfl, -⟩ | ⟨rfl, -⟩ | ⟨-, -, -, rfl⟩ := next_inside step
    · contradiction
    · contradiction
    · exact ih rest rfl onward

theorem printing_of_simpleEscape (known : (simpleEscape? c).isSome = true) : 32 ≤ c.toNat := by
  unfold simpleEscape? at known
  split_ifs at known with quote backslash slash b f n r t
  case neg => contradiction
  all_goals
    subst c
    decide

theorem outside_of_control (control : c.toNat < 32) (step : p.next c = some q) :
    p.mode = .outside := by
  obtain ⟨mode, depth⟩ := p
  cases mode with
  | outside => rfl
  | inside =>
    obtain ⟨rfl, -⟩ | ⟨rfl, -⟩ | ⟨-, -, printing, -⟩ := next_inside step
    · contradiction
    · contradiction
    · omega
  | escaping =>
    obtain ⟨rfl | known, -⟩ := next_escaping step
    · contradiction
    · have printing := printing_of_simpleEscape known
      omega

end Marks

theorem follow_of_parse {s : String} {v : Json} (parsed : Json.parse s = .ok v) (d : Nat) :
    Position.follow ⟨.outside, d + 1⟩ s.toList = some ⟨.outside, d + 1⟩ := by
  obtain ⟨lead, text, trail, tree, cut, before, written, after, -⟩ :=
    (parse_eq_ok_iff s v).mp parsed
  rw [cut]
  exact follow_append_eq_some.mpr ⟨_, follow_spaces before d,
    follow_append_eq_some.mpr ⟨_, written.follows d, follow_spaces after d⟩⟩

section Prolonging

theorem follow_done {s : List Char} {p : Position}
    (followed : Position.follow ⟨.outside, 0⟩ s = some p) : s = [] := by
  cases s with
  | nil => rfl
  | cons c s =>
    obtain ⟨_, step, -⟩ := follow_cons_eq_some.mp followed
    contradiction

/-- An object's text ends with its last brace: it can be made longer by blanks alone. -/
theorem spaces_of_parse_append {s more : List Char} {members others : List (String × Json)}
    (parsed : Json.parse (String.ofList ('\x7b' :: s)) = .ok (.object members))
    (prolonged : Json.parse (String.ofList ('\x7b' :: (s ++ more))) = .ok (.object others)) :
    Spaces more := by
  have opened {t : List Char} {held : List (String × Json)}
      (parsed : Json.parse (String.ofList ('\x7b' :: t)) = .ok (.object held)) :
      ∃ inner trail, t = inner ++ trail ∧ Spaces trail ∧
        Position.follow ⟨.outside, 1⟩ inner = some ⟨.outside, 0⟩ := by
    obtain ⟨lead, inner, trail, trees, cut, before, written, after, -⟩ := object_of_parse parsed
    rw [String.toList_ofList] at cut
    cases lead with
    | nil => exact ⟨inner, trail, (List.cons.inj cut).2, after, written.follows 0⟩
    | cons c lead =>
      obtain ⟨rfl, -⟩ := List.cons.inj cut
      exact absurd (before '\x7b' List.mem_cons_self) (by decide)
  obtain ⟨inner, trail, rfl, -, ended⟩ := opened parsed
  obtain ⟨inner', trail', cut, spaces, ended'⟩ := opened prolonged
  rcases List.append_eq_append_iff.mp cut with ⟨extra, rfl, rfl⟩ | ⟨extra, -, rfl⟩
  · rw [List.append_assoc] at ended'
    obtain ⟨q, first, rest⟩ := follow_append_eq_some.mp ended'
    obtain rfl := Option.some.inj (ended.symm.trans first)
    obtain ⟨-, rfl⟩ := List.append_eq_nil_iff.mp (follow_done rest)
    exact spaces
  · exact fun c member => spaces c (List.mem_append_right _ member)

end Prolonging

section Keys

theorem Body.within {text value : List Char} (body : Body text value) (unescaped : '\\' ∉ text) :
    ∀ c ∈ value, c ∈ text := by
  induction body with
  | closed => simp
  | plain _ _ _ more ih =>
    rw [List.mem_cons, not_or] at unescaped
    intro c member
    rcases List.mem_cons.mp member with rfl | later
    · exact List.mem_cons_self
    · exact List.mem_cons_of_mem _ (ih unescaped.2 c later)
  | escaped => exact absurd List.mem_cons_self unescaped

def KeysWithin : Piece → List Char → Prop
  | .members _ trees, text => ∀ key ∈ trees.map (·.1), ∀ c ∈ key.toList, c ∈ text
  | .value (.object trees), text => ∀ key ∈ trees.map (·.1), ∀ c ∈ key.toList, c ∈ text
  | _, _ => True

theorem Written.keysWithin {piece : Piece} {text : List Char} (written : Written piece text)
    (unescaped : '\\' ∉ text) : KeysWithin piece text := by
  induction written with
  | object members within =>
    rw [List.mem_cons, not_or] at unescaped
    intro key member c inside
    exact List.mem_cons_of_mem _ (within unescaped.2 key member c inside)
  | noMember first spaces => simp [KeysWithin]
  | @member first lead key name before after text more tree trees opened body left right head tail
      headWithin tailWithin =>
    simp only [List.mem_append, List.mem_cons, not_or] at unescaped
    intro k member c inside
    rcases List.mem_cons.mp member with rfl | later
    · have spelled := body.within (by tauto) c (by simpa using inside)
      simp [spelled]
    · have spelled := tailWithin (by tauto) k later c inside
      simp [spelled]
  | _ => trivial

theorem lookup_of_parse {s : String} {members : List (String × Json)} {key : String} {c : Char}
    (parsed : Json.parse s = .ok (.object members)) (unescaped : '\\' ∉ s.toList)
    (letter : c ∈ key.toList) (missing : c ∉ s.toList) : members.lookup key = none := by
  obtain ⟨lead, text, trail, tree, cut, before, written, after, known⟩ :=
    (parse_eq_ok_iff s _).mp parsed
  obtain ⟨trees, rfl, keys⟩ := object_of_read known
  simp only [cut, List.mem_append, not_or] at unescaped missing
  have absent : key ∉ members.map (·.1) := by
    intro member
    exact missing.2.1 (written.keysWithin unescaped.2.1 key ((keys key).mp member) c letter)
  rw [List.lookup_eq_none_iff]
  intro pair member
  rw [bne_iff_ne]
  rintro rfl
  exact absent (List.mem_map_of_mem member)

end Keys

end PathAudit.Raw
