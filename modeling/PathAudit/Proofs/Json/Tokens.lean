import PathAudit.Json.Raw
import Mathlib.Data.List.Basic

/-! The tokens of a JSON text: where a number and a string end. What is read as one of them is read
the same whatever stands behind it, a number only if no further figure does. -/
namespace PathAudit.Raw

section Numbers

def isFigure (c : Char) : Bool :=
  c.isDigit || c == '-' || c == '+' || c == '.' || c == 'e' || c == 'E'

theorem isFigure_of_isDigit {c : Char} (digit : c.isDigit = true) : isFigure c = true := by
  simp [isFigure, digit]

def Parted (rest : List Char) : Prop := ∀ c ∈ rest.head?, isFigure c = false

theorem parted_cons {c : Char} (rest : List Char) (other : isFigure c = false) :
    Parted (c :: rest) := by
  intro d first
  cases Option.some.inj first
  exact other

theorem Parted.not_digit {rest : List Char} (parted : Parted rest) :
    ∀ c ∈ rest.head?, c.isDigit = false := by
  intro c first
  rw [← Bool.not_eq_true]
  intro digit
  have other := parted c first
  rw [isFigure_of_isDigit digit] at other
  contradiction

theorem span_isDigit {digits tail : List Char} (all : ∀ c ∈ digits, c.isDigit = true)
    (ended : ∀ c ∈ tail.head?, c.isDigit = false) :
    (digits ++ tail).takeWhile Char.isDigit = digits ∧
      (digits ++ tail).dropWhile Char.isDigit = tail := by
  rw [List.takeWhile_append_of_pos all, List.dropWhile_append_of_pos all]
  cases tail with
  | nil => simp
  | cons c tail =>
    have other : c.isDigit = false := ended c rfl
    simp [other]

private theorem exists_digits {s : List Char}
    (some : ¬(s.takeWhile Char.isDigit).isEmpty = true) :
    ∃ d digits, s.takeWhile Char.isDigit = d :: digits ∧
      (∀ c ∈ d :: digits, c.isDigit = true) ∧ s = d :: digits ++ s.dropWhile Char.isDigit := by
  have all := List.all_takeWhile (l := s) (p := Char.isDigit)
  have whole : s.takeWhile Char.isDigit ++ s.dropWhile Char.isDigit = s :=
    List.takeWhile_append_dropWhile
  generalize s.takeWhile Char.isDigit = digits at some all whole
  cases digits with
  | nil => exact absurd rfl some
  | cons d digits => exact ⟨d, digits, rfl, List.all_eq_true.mp all, whole.symm⟩

/-- The reader takes `text` for a number, in front of whatever does not prolong it. -/
structure Takes (reader : List Char → NumberScan) (text : List Char)
    (value : Except JsonFault JsonNumber) : Prop where
  figures : ∀ c ∈ text, isFigure c = true
  reads : ∀ rest, Parted rest → reader (text ++ rest) = .ok (value, rest)

section Reading
variable {negative : Bool} {significand : Nat} {start : Int} {s rest : List Char}
  {value : Except JsonFault JsonNumber}

private def exponentSign : List Char → Bool × List Char
  | '+' :: s => (false, s)
  | '-' :: s => (true, s)
  | s => (false, s)

private theorem exponentSign_takes (s : List Char) :
    ∃ sign, s = sign ++ (exponentSign s).2 ∧ (∀ c ∈ sign, isFigure c = true) ∧
      ∀ d digits, d.isDigit = true →
        exponentSign (sign ++ d :: digits) = ((exponentSign s).1, d :: digits) := by
  unfold exponentSign
  split
  · exact ⟨['+'], rfl, List.forall_mem_singleton.mpr (by decide), fun d digits _ => rfl⟩
  · exact ⟨['-'], rfl, List.forall_mem_singleton.mpr (by decide), fun d digits _ => rfl⟩
  next =>
    refine ⟨[], rfl, by simp, fun d digits digit => ?_⟩
    simp only [List.nil_append]
    split
    next same =>
      cases same
      exact absurd digit (by decide)
    next same =>
      cases same
      exact absurd digit (by decide)
    · rfl

private def exponentValue (negative : Bool) (significand : Nat) (start : Int) (minus : Bool)
    (digits : List Char) : Except JsonFault JsonNumber :=
  let size := Decimal.digitsValue digits
  if size < Nat.pow 2 31 then
    ofParts negative significand (if minus then start - size else start + size)
  else if significand ≠ 0 ∧ !minus then .error .numberOutOfRange
  else .ok (.float (Double.zero negative))

private theorem scanExponent_eq (s : List Char) :
    scanExponent negative significand start s =
      let (minus, s) := exponentSign s
      if (s.takeWhile Char.isDigit).isEmpty then
        .error (if s.isEmpty then .eofValue else .invalidNumber, .invalidNumber)
      else
        .ok (exponentValue negative significand start minus (s.takeWhile Char.isDigit),
          s.dropWhile Char.isDigit) :=
  rfl

theorem scanExponent_takes
    (scanned : scanExponent negative significand start s = .ok (value, rest)) :
    ∃ text, s = text ++ rest ∧ Takes (scanExponent negative significand start) text value := by
  obtain ⟨sign, cut, figures, same⟩ := exponentSign_takes s
  rw [scanExponent_eq] at scanned
  generalize exponentSign s = signed at scanned cut same
  obtain ⟨minus, t⟩ := signed
  simp only at scanned cut same
  split at scanned
  · contradiction
  next some =>
    obtain ⟨d, digits, taken, all, whole⟩ := exists_digits some
    obtain ⟨rfl, rfl⟩ := Prod.mk.inj (Except.ok.inj scanned)
    refine ⟨sign ++ d :: digits, ?_, ?_, ?_⟩
    · rw [cut, List.append_assoc, ← whole]
    · intro c member
      rcases List.mem_append.mp member with inSign | inDigits
      · exact figures c inSign
      · exact isFigure_of_isDigit (all c inDigits)
    · intro more parted
      have digit : d.isDigit = true := all d List.mem_cons_self
      have spanned := span_isDigit all parted.not_digit
      rw [scanExponent_eq, List.append_assoc, List.cons_append, same d _ digit]
      simp only [← List.cons_append, spanned, taken, List.isEmpty_cons, Bool.false_eq_true,
        if_false]

private theorem takes_digits {reader onward : List Char → NumberScan} {digits text : List Char}
    (all : ∀ c ∈ digits, c.isDigit = true)
    (begun : ∀ tail, (∀ c ∈ tail.head?, c.isDigit = false) → reader (digits ++ tail) = onward tail)
    (taken : Takes onward text value) (ended : ∀ c ∈ text.head?, c.isDigit = false) :
    Takes reader (digits ++ text) value := by
  constructor
  · intro c member
    rcases List.mem_append.mp member with inDigits | inText
    · exact isFigure_of_isDigit (all c inDigits)
    · exact taken.figures c inText
  · intro more parted
    rw [List.append_assoc, begun, taken.reads more parted]
    cases text with
    | nil => exact parted.not_digit
    | cons c text => exact ended

private def Proceeds (onward : List Char → NumberScan) : Prop :=
  ∀ tail value rest, onward tail = .ok (value, rest) →
    ∃ text, tail = text ++ rest ∧ Takes onward text value ∧ ∀ c ∈ text.head?, c.isDigit = false

private theorem takes_mark {reader onward : List Char → NumberScan} {mark : Char} {text : List Char}
    (begun : ∀ tail, onward (mark :: tail) = reader tail) (figure : isFigure mark = true)
    (taken : Takes reader text value) : Takes onward (mark :: text) value := by
  constructor
  · exact List.forall_mem_cons.mpr ⟨figure, taken.figures⟩
  · intro more parted
    rw [List.cons_append, begun, taken.reads more parted]

private def afterFraction (negative : Bool) (significand : Nat) (exponent : Int) :
    List Char → NumberScan
  | 'e' :: rest => scanExponent negative significand exponent rest
  | 'E' :: rest => scanExponent negative significand exponent rest
  | rest => .ok (ofParts negative significand exponent, rest)

private theorem proceeds_afterFraction : Proceeds (afterFraction negative significand start) := by
  intro tail value rest scanned
  unfold afterFraction at scanned
  split at scanned
  next =>
    obtain ⟨text, rfl, taken⟩ := scanExponent_takes scanned
    exact ⟨'e' :: text, rfl, takes_mark (fun _ => rfl) (by decide) taken, by simp⟩
  next =>
    obtain ⟨text, rfl, taken⟩ := scanExponent_takes scanned
    exact ⟨'E' :: text, rfl, takes_mark (fun _ => rfl) (by decide) taken, by simp⟩
  next =>
    obtain ⟨rfl, rfl⟩ := Prod.mk.inj (Except.ok.inj scanned)
    refine ⟨[], rfl, ⟨by simp, fun more parted => ?_⟩, by simp⟩
    rw [List.nil_append]
    unfold afterFraction
    split
    · exact absurd (parted 'e' rfl) (by decide)
    · exact absurd (parted 'E' rfl) (by decide)
    · rfl

private theorem scanFraction_eq (s : List Char) :
    scanFraction negative significand start s =
      if (s.takeWhile Char.isDigit).isEmpty then
        .error (if s.isEmpty then .eofValue else .invalidNumber, .invalidNumber)
      else
        let digits := s.takeWhile Char.isDigit
        let (significand, surplus) := accumulate significand digits
        afterFraction negative significand (start - (digits.length - surplus.length : Nat))
          (s.dropWhile Char.isDigit) :=
  rfl

theorem scanFraction_takes
    (scanned : scanFraction negative significand start s = .ok (value, rest)) :
    ∃ text, s = text ++ rest ∧ Takes (scanFraction negative significand start) text value := by
  rw [scanFraction_eq] at scanned
  split at scanned
  · contradiction
  next some =>
    obtain ⟨d, digits, taken, all, whole⟩ := exists_digits some
    obtain ⟨text, cut, onward, ended⟩ := proceeds_afterFraction _ _ _ scanned
    refine ⟨d :: digits ++ text, ?_, takes_digits all (fun tail stopped => ?_) onward ended⟩
    · rw [whole, cut, List.append_assoc]
    · obtain ⟨before, after⟩ := span_isDigit all stopped
      rw [scanFraction_eq, before, after, taken]
      rfl

private def integerValue (negative : Bool) (significand : Nat) (surplus : List Char) :
    Except JsonFault JsonNumber :=
  if surplus.isEmpty then
    if !negative then .ok (.int significand)
    else if significand = 0 ∨ Nat.pow 2 63 < significand then
      .ok (.float { Double.ofNat significand with negative := true })
    else .ok (.int (-significand))
  else ofParts negative significand surplus.length

private def afterInteger (negative : Bool) (significand : Nat) (surplus : List Char) :
    List Char → NumberScan
  | '.' :: rest => scanFraction negative significand surplus.length rest
  | 'e' :: rest => scanExponent negative significand surplus.length rest
  | 'E' :: rest => scanExponent negative significand surplus.length rest
  | rest => .ok (integerValue negative significand surplus, rest)

private theorem proceeds_afterInteger (surplus : List Char) :
    Proceeds (afterInteger negative significand surplus) := by
  intro tail value rest scanned
  unfold afterInteger at scanned
  split at scanned
  next =>
    obtain ⟨text, rfl, taken⟩ := scanFraction_takes scanned
    exact ⟨'.' :: text, rfl, takes_mark (fun _ => rfl) (by decide) taken, by simp⟩
  next =>
    obtain ⟨text, rfl, taken⟩ := scanExponent_takes scanned
    exact ⟨'e' :: text, rfl, takes_mark (fun _ => rfl) (by decide) taken, by simp⟩
  next =>
    obtain ⟨text, rfl, taken⟩ := scanExponent_takes scanned
    exact ⟨'E' :: text, rfl, takes_mark (fun _ => rfl) (by decide) taken, by simp⟩
  next =>
    obtain ⟨rfl, rfl⟩ := Prod.mk.inj (Except.ok.inj scanned)
    refine ⟨[], rfl, ⟨by simp, fun more parted => ?_⟩, by simp⟩
    rw [List.nil_append]
    unfold afterInteger
    split
    · exact absurd (parted '.' rfl) (by decide)
    · exact absurd (parted 'e' rfl) (by decide)
    · exact absurd (parted 'E' rfl) (by decide)
    · rfl

private theorem scanNumber_eq (s : List Char) :
    scanNumber negative s =
      match s.takeWhile Char.isDigit with
      | [] => .error (if (s.dropWhile Char.isDigit).isEmpty then .eofValue else .invalidNumber,
          .invalidNumber)
      | '0' :: _ :: _ => .error (.invalidNumber, .invalidNumber)
      | digits =>
        let (significand, surplus) := accumulate 0 digits
        afterInteger negative significand surplus (s.dropWhile Char.isDigit) :=
  rfl

theorem scanNumber_takes (scanned : scanNumber negative s = .ok (value, rest)) :
    ∃ d more, d.isDigit = true ∧ s = d :: more ++ rest ∧
      Takes (scanNumber negative) (d :: more) value := by
  rw [scanNumber_eq] at scanned
  split at scanned
  · contradiction
  · contradiction
  next nonempty single =>
    obtain ⟨d, digits, taken, all, whole⟩ := exists_digits (s := s) (by simpa using nonempty)
    obtain ⟨text, cut, onward, ended⟩ := proceeds_afterInteger _ _ _ _ scanned
    refine ⟨d, digits ++ text, all d List.mem_cons_self, ?_,
      takes_digits all (fun tail stopped => ?_) onward ended⟩
    · rw [whole, cut, ← List.append_assoc, List.cons_append]
    · obtain ⟨before, after⟩ := span_isDigit all stopped
      rw [scanNumber_eq, before, after, taken]
      split
      · contradiction
      next same => exact absurd (taken.trans same) (single _ _)
      · rfl

end Reading

end Numbers

section Strings

structure Spells (hex : List Char) (n : Nat) : Prop where
  digits : ∀ c ∈ hex, (Utf8.hexDigit? c).isSome = true
  reads : ∀ rest, hex4 (hex ++ rest) = .ok (n, rest)

theorem hex4_spells {s rest : List Char} {n : Nat} (scanned : hex4 s = .ok (n, rest)) :
    ∃ hex, s = hex ++ rest ∧ Spells hex n := by
  unfold hex4 at scanned
  split at scanned
  next a b c d more =>
    split at scanned
    next first second third fourth =>
      obtain ⟨rfl, rfl⟩ := Prod.mk.inj (Except.ok.inj scanned)
      refine ⟨[a, b, c, d], rfl, ?_, fun rest => ?_⟩
      · simp [first, second, third, fourth]
      · simp [hex4, first, second, third, fourth]
    · contradiction
  · contradiction

inductive Escape : List Char → Char → Prop where
  | simple {e c : Char} (known : simpleEscape? e = some c) : Escape [e] c
  | code {hex : List Char} {n : Nat} (spells : Spells hex n) (whole : n < 0xD800 ∨ 0xDFFF < n) :
      Escape ('u' :: hex) (Char.ofNat n)
  | pair {high low : List Char} {n m : Nat} (first : Spells high n) (second : Spells low m)
      (leading : 0xD800 ≤ n ∧ n ≤ 0xDBFF) (trailing : 0xDC00 ≤ m ∧ m ≤ 0xDFFF) :
      Escape ('u' :: (high ++ '\\' :: 'u' :: low))
        (Char.ofNat ((n - 0xD800) * 1024 + (m - 0xDC00) + 0x10000))

/-- A string after its opening quote, with the text it stands for. -/
inductive Body : List Char → List Char → Prop where
  | closed : Body ['"'] []
  | plain {c : Char} {text value : List Char} (unquoted : c ≠ '"') (unescaped : c ≠ '\\')
      (printing : 32 ≤ c.toNat) (more : Body text value) : Body (c :: text) (c :: value)
  | escaped {c : Char} {escape text value : List Char} (known : Escape escape c)
      (more : Body text value) : Body ('\\' :: (escape ++ text)) (c :: value)

theorem Spells.length {hex : List Char} {n : Nat} (spells : Spells hex n) : hex.length = 4 := by
  have reads := spells.reads []
  rw [List.append_nil] at reads
  unfold hex4 at reads
  split at reads
  next a b c d more =>
    split at reads
    · obtain ⟨-, rfl⟩ := Prod.mk.inj (Except.ok.inj reads)
      rfl
    · contradiction
  · contradiction

theorem unicodeEscape_spells {n more : Nat} {c : Char} {rest : List Char}
    (known : unicodeEscape n rest = .ok (c, more)) :
    ((n < 0xD800 ∨ 0xDFFF < n) ∧ c = Char.ofNat n ∧ more = 0) ∨
      ∃ low m after, rest = '\\' :: 'u' :: (low ++ after) ∧ Spells low m ∧
        (0xD800 ≤ n ∧ n ≤ 0xDBFF) ∧ (0xDC00 ≤ m ∧ m ≤ 0xDFFF) ∧ more = 6 ∧
        c = Char.ofNat ((n - 0xD800) * 1024 + (m - 0xDC00) + 0x10000) := by
  unfold unicodeEscape at known
  split at known
  · contradiction
  next notTrailing =>
    split at known
    next whole =>
      obtain ⟨rfl, rfl⟩ := Prod.mk.inj (Except.ok.inj known)
      exact .inl ⟨by omega, rfl, rfl⟩
    next leading =>
      split at known
      · contradiction
      next =>
        split at known
        · contradiction
        next rest =>
          cases second : hex4 rest with
          | error fault =>
            rw [second] at known
            contradiction
          | ok read =>
            obtain ⟨m, after⟩ := read
            obtain ⟨low, rfl, spells⟩ := hex4_spells second
            rw [second] at known
            simp only [bind, Except.bind] at known
            split at known
            · contradiction
            next trailing =>
              obtain ⟨rfl, rfl⟩ := Prod.mk.inj (Except.ok.inj known)
              exact .inr ⟨low, m, after, rfl, spells, by omega, by omega, rfl, rfl⟩
        · contradiction
      · contradiction

theorem scanString_plain {c : Char} (unquoted : c ≠ '"') (unescaped : c ≠ '\\')
    (printing : 32 ≤ c.toNat) (fuel : Nat) (rest : List Char) :
    scanString (fuel + 1) (c :: rest) = (scanString fuel rest).push c := by
  rw [scanString.eq_def]
  simp only [unquoted, unescaped, Nat.not_lt.mpr printing, if_false]

theorem scanString_escape {escape : List Char} {c : Char} (known : Escape escape c) (fuel : Nat)
    (rest : List Char) :
    scanString (fuel + 1) ('\\' :: (escape ++ rest)) = (scanString fuel rest).push c := by
  have opened : ¬ '\\' = '"' := by decide
  cases known with
  | @simple e c known =>
    have other : e ≠ 'u' := by
      rintro rfl
      simp [simpleEscape?] at known
    simp only [List.cons_append, List.nil_append, scanString, opened, if_false, if_true, other,
      known]
  | @code hex n spells whole =>
    have alone (rest : List Char) : unicodeEscape n rest = .ok (Char.ofNat n, 0) := by
      unfold unicodeEscape
      rw [if_neg (by omega), if_pos (by omega)]
    simp only [List.cons_append, scanString, opened, if_false, if_true, spells.reads, alone,
      List.drop_zero]
  | @pair high low n m first second leading trailing =>
    have joined (rest : List Char) : unicodeEscape n ('\\' :: 'u' :: (low ++ rest)) =
        .ok (Char.ofNat ((n - 0xD800) * 1024 + (m - 0xDC00) + 0x10000), 6) := by
      simp only [unicodeEscape, second.reads, bind, Except.bind]
      rw [if_neg (by omega), if_neg (by omega), if_neg (by omega)]
    have skipped (rest : List Char) : ('\\' :: 'u' :: (low ++ rest)).drop 6 = rest := by
      rw [List.drop_succ_cons, List.drop_succ_cons, List.drop_left' second.length]
    simp only [List.cons_append, List.append_assoc, scanString, opened, if_false, if_true,
      first.reads, joined, skipped]

theorem scanString_cases {fuel : Nat} {s value : List Char}
    (read : (scanString (fuel + 1) s).text = .ok value) :
    (∃ rest, s = '"' :: rest) ∨
      (∃ c rest, s = c :: rest ∧ c ≠ '"' ∧ c ≠ '\\' ∧ 32 ≤ c.toNat) ∨
      ∃ escape c rest, s = '\\' :: (escape ++ rest) ∧ Escape escape c := by
  cases s with
  | nil => contradiction
  | cons c rest =>
    rw [scanString.eq_def] at read
    dsimp only at read
    split at read
    next quote => exact .inl ⟨rest, by rw [quote]⟩
    next unquoted =>
      split at read
      next backslash =>
        subst backslash
        split at read
        · contradiction
        next e rest =>
          split at read
          next unicode =>
            subst unicode
            split at read
            · contradiction
            next n rest scanned =>
              obtain ⟨hex, rfl, spells⟩ := hex4_spells scanned
              split at read
              next known =>
                obtain ⟨whole, -⟩ | ⟨low, m, after, rfl, low_spells, leading, trailing, -⟩ :=
                  unicodeEscape_spells known
                · exact .inr (.inr ⟨'u' :: hex, _, _, rfl, .code spells whole⟩)
                · refine .inr (.inr ⟨'u' :: (hex ++ '\\' :: 'u' :: low), _, after, ?_,
                    .pair spells low_spells leading trailing⟩)
                  simp
              · contradiction
          next =>
            split at read
            next known => exact .inr (.inr ⟨[e], _, rest, rfl, .simple known⟩)
            · contradiction
      next unescaped =>
        split at read
        · contradiction
        next printing => exact .inr (.inl ⟨c, rest, rfl, unquoted, unescaped, by omega⟩)

private theorem text_push {c : Char} {scanned : Scanned} {value : List Char}
    (read : (scanned.push c).text = .ok value) :
    ∃ more, scanned.text = .ok more ∧ value = c :: more := by
  cases text : scanned.text with
  | error fault => simp [Scanned.push, text, Except.map] at read
  | ok more =>
    simp only [Scanned.push, text, Except.map, Except.ok.injEq] at read
    exact ⟨more, rfl, read.symm⟩

theorem scanString_body {fuel : Nat} {s value : List Char}
    (read : (scanString fuel s).text = .ok value) :
    ∃ text rest, (scanString fuel s).rest = .ok rest ∧ s = text ++ rest ∧ Body text value := by
  induction fuel generalizing s value with
  | zero => contradiction
  | succ fuel ih =>
    obtain ⟨rest, rfl⟩ | ⟨c, s, rfl, unquoted, unescaped, printing⟩ | ⟨escape, c, s, rfl, known⟩ :=
      scanString_cases read
    · obtain rfl := Except.ok.inj read
      exact ⟨['"'], rest, rfl, rfl, .closed⟩
    · rw [scanString_plain unquoted unescaped printing] at read ⊢
      obtain ⟨more, onward, rfl⟩ := text_push read
      obtain ⟨text, rest, after, rfl, body⟩ := ih onward
      exact ⟨c :: text, rest, after, rfl, .plain unquoted unescaped printing body⟩
    · rw [scanString_escape known] at read ⊢
      obtain ⟨more, onward, rfl⟩ := text_push read
      obtain ⟨text, rest, after, rfl, body⟩ := ih onward
      exact ⟨'\\' :: (escape ++ text), rest, after, by simp, .escaped known body⟩

theorem Body.scanString_append {text value : List Char} (body : Body text value) (fuel : Nat)
    (enough : text.length ≤ fuel) (rest : List Char) :
    scanString fuel (text ++ rest) = ⟨.ok value, .ok rest⟩ := by
  induction body generalizing fuel with
  | closed =>
    obtain ⟨fuel, rfl⟩ := Nat.exists_eq_add_of_le' enough
    rfl
  | plain unquoted unescaped printing more ih =>
    obtain ⟨fuel, rfl⟩ := Nat.exists_eq_add_of_le' enough
    rw [List.cons_append, List.length_cons, ← Nat.add_assoc,
      scanString_plain unquoted unescaped printing, ih _ (Nat.le_add_left _ _)]
    rfl
  | @escaped c escape text value known more ih =>
    obtain ⟨fuel, rfl⟩ := Nat.exists_eq_add_of_le' enough
    rw [List.cons_append, List.append_assoc, List.length_cons, ← Nat.add_assoc,
      scanString_escape known, ih _ (by simp only [List.length_append]; omega)]
    rfl

end Strings

end PathAudit.Raw
