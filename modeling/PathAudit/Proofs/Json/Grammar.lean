import PathAudit.Proofs.Json.Tokens
import Mathlib.Data.List.TakeWhile

/-! The grammar of JSON texts. `Written` says which text stands for which value, members in the
order of the text; the scanner reads exactly these texts. -/
namespace PathAudit.Raw

def Spaces (s : List Char) : Prop := ∀ c ∈ s, isSpace c = true

inductive Lead : Bool → List Char → Prop where
  | first {blank : List Char} (spaces : Spaces blank) : Lead true blank
  | next {before after : List Char} (left : Spaces before) (right : Spaces after) :
      Lead false (before ++ ',' :: after)

/-- A value, or what is left of an array or an object up to its closing bracket. -/
inductive Piece where
  | value (tree : Json)
  | items (first : Bool) (trees : List Json)
  | members (first : Bool) (trees : List (String × Json))

inductive Written : Piece → List Char → Prop where
  | null : Written (.value .null) ['n', 'u', 'l', 'l']
  | yes : Written (.value (.bool true)) ['t', 'r', 'u', 'e']
  | no : Written (.value (.bool false)) ['f', 'a', 'l', 's', 'e']
  | number {d : Char} {text : List Char} {n : JsonNumber} (digit : d.isDigit = true)
      (taken : Takes (scanNumber false) (d :: text) (.ok n)) :
      Written (.value (.number n)) (d :: text)
  | negative {d : Char} {text : List Char} {n : JsonNumber} (digit : d.isDigit = true)
      (taken : Takes (scanNumber true) (d :: text) (.ok n)) :
      Written (.value (.number n)) ('-' :: d :: text)
  | string {text value : List Char} (body : Body text value) :
      Written (.value (.string (String.ofList value))) ('"' :: text)
  | array {trees : List Json} {text : List Char} (items : Written (.items true trees) text) :
      Written (.value (.array trees)) ('[' :: text)
  | object {trees : List (String × Json)} {text : List Char}
      (members : Written (.members true trees) text) :
      Written (.value (.object trees)) ('\x7b' :: text)
  | noItem (first : Bool) {blank : List Char} (spaces : Spaces blank) :
      Written (.items first []) (blank ++ [']'])
  | item {first : Bool} {lead text more : List Char} {tree : Json} {trees : List Json}
      (opened : Lead first lead) (head : Written (.value tree) text)
      (rest : Written (.items false trees) more) :
      Written (.items first (tree :: trees)) (lead ++ (text ++ more))
  | noMember (first : Bool) {blank : List Char} (spaces : Spaces blank) :
      Written (.members first []) (blank ++ ['\x7d'])
  | member {first : Bool} {lead key name before after text more : List Char} {tree : Json}
      {trees : List (String × Json)} (opened : Lead first lead) (body : Body key name)
      (left : Spaces before) (right : Spaces after) (head : Written (.value tree) text)
      (rest : Written (.members false trees) more) :
      Written (.members first ((String.ofList name, tree) :: trees))
        (lead ++ '"' :: (key ++ (before ++ ':' :: (after ++ (text ++ more)))))

theorem spaces_nil : Spaces [] := nofun

theorem spaces_singleton (c : Char) (space : isSpace c = true) : Spaces [c] :=
  List.forall_mem_singleton.mpr space

theorem Spaces.append {left right : List Char} (before : Spaces left) (after : Spaces right) :
    Spaces (left ++ right) :=
  List.forall_mem_append.mpr ⟨before, after⟩

theorem skipSpace_cut (s : List Char) : ∃ blank, Spaces blank ∧ s = blank ++ skipSpace s :=
  ⟨s.takeWhile isSpace, List.all_eq_true.mp List.all_takeWhile,
    List.takeWhile_append_dropWhile.symm⟩

theorem skipSpace_append {blank : List Char} (spaces : Spaces blank) {c : Char}
    (solid : isSpace c = false) (rest : List Char) :
    skipSpace (blank ++ c :: rest) = c :: rest := by
  unfold skipSpace
  rw [List.dropWhile_append_of_pos spaces, List.dropWhile_cons, solid]
  rfl

theorem skipSpace_of_spaces {blank : List Char} (spaces : Spaces blank) : skipSpace blank = [] := by
  unfold skipSpace
  exact List.dropWhile_eq_nil_iff.mpr spaces

section Soundness

/-- What a scan without a break has found in `s`, and where it ended. -/
def FoundValue (tree : Json) (s : List Char) (after : Option (List Char)) : Prop :=
  ∃ blank text rest, Spaces blank ∧ Written (.value tree) text ∧
    s = blank ++ (text ++ rest) ∧ after = some rest

def FoundItems (first : Bool) (trees : List Json) (s : List Char) (after : Option (List Char)) :
    Prop :=
  ∃ text rest, Written (.items first trees) text ∧ s = text ++ rest ∧ after = some rest

def FoundItem (trees : List Json) (s : List Char) (after : Option (List Char)) : Prop :=
  ∃ blank text more rest tree others, Spaces blank ∧ Written (.value tree) text ∧
    Written (.items false others) more ∧ trees = tree :: others ∧
    s = blank ++ (text ++ (more ++ rest)) ∧ after = some rest

def FoundMembers (first : Bool) (trees : List (String × Json)) (s : List Char)
    (after : Option (List Char)) : Prop :=
  ∃ text rest, Written (.members first trees) text ∧ s = text ++ rest ∧ after = some rest

def FoundMember (trees : List (String × Json)) (s : List Char) (after : Option (List Char)) :
    Prop :=
  ∃ key name before blank text more rest tree others, Body key name ∧ Spaces before ∧
    Spaces blank ∧ Written (.value tree) text ∧ Written (.members false others) more ∧
    trees = (String.ofList name, tree) :: others ∧
    s = key ++ (before ++ ':' :: (blank ++ (text ++ (more ++ rest)))) ∧ after = some rest

structure Sound (fuel : Nat) : Prop where
  value : ∀ {s after tree}, scan fuel s = (ofJson tree, after) → FoundValue tree s after
  items : ∀ {first s after trees}, scanItems fuel first s = (ofItems trees, .closed, after) →
    FoundItems first trees s after
  item : ∀ {s after trees}, scanItem fuel s = (ofItems trees, .closed, after) →
    FoundItem trees s after
  members : ∀ {first s after trees}, scanMembers fuel first s = (ofMembers trees, .closed, after) →
    FoundMembers first trees s after
  member : ∀ {s after trees}, scanMember fuel s = (ofMembers trees, .closed, after) →
    FoundMember trees s after

theorem text_eq_ofJson {scanned : Scanned} {tree : Json} {after : Option (List Char)}
    (same : text scanned = (ofJson tree, after)) :
    ∃ value rest, scanned.text = .ok value ∧ scanned.rest = .ok rest ∧
      tree = .string (String.ofList value) ∧ after = some rest := by
  unfold text at same
  split at same
  next rest value scannedRest scannedText =>
    obtain ⟨same, rfl⟩ := Prod.mk.inj same
    refine ⟨value, rest, scannedText, scannedRest, ?_, rfl⟩
    cases tree <;> simp_all [ofJson]
  all_goals
    obtain ⟨held, rfl⟩ := Prod.mk.inj same
    cases tree <;> simp [ofJson] at held

theorem numeral_eq_ofJson {scanned : NumberScan} {tree : Json} {after : Option (List Char)}
    (same : numeral scanned = (ofJson tree, after)) :
    ∃ n rest, scanned = .ok (.ok n, rest) ∧ tree = .number n ∧ after = some rest := by
  unfold numeral at same
  split at same
  next n rest =>
    obtain ⟨same, rfl⟩ := Prod.mk.inj same
    refine ⟨n, rest, rfl, ?_, rfl⟩
    cases tree <;> simp_all [ofJson]
  all_goals
    obtain ⟨held, rfl⟩ := Prod.mk.inj same
    cases tree <;> simp [ofJson] at held

theorem scanWord_eq {letters s rest : List Char} (scanned : scanWord letters s = .ok rest) :
    s = letters ++ rest := by
  induction letters generalizing s with
  | nil => exact Except.ok.inj scanned
  | cons c letters ih =>
    cases s with
    | nil => contradiction
    | cons d s =>
      unfold scanWord at scanned
      split at scanned
      next same => rw [same, ih scanned, List.cons_append]
      · contradiction

theorem word_eq_ofJson {letters : String} {value : Raw} {s : List Char} {tree : Json}
    {after : Option (List Char)} (same : word letters value s = (ofJson tree, after)) :
    ∃ rest, s = letters.toList ++ rest ∧ value = ofJson tree ∧ after = some rest := by
  unfold word at same
  split at same
  next rest scanned =>
    obtain ⟨held, rfl⟩ := Prod.mk.inj same
    exact ⟨rest, scanWord_eq scanned, held, rfl⟩
  next =>
    obtain ⟨held, rfl⟩ := Prod.mk.inj same
    cases tree <;> simp [ofJson] at held

private theorem object_eq_ofJson {members : List (Except JsonFault String × Raw)} {ending : MapEnd}
    {tree : Json} (same : Raw.object members ending = ofJson tree) :
    ∃ trees, tree = .object trees ∧ members = ofMembers trees ∧ ending = .closed := by
  cases tree with
  | object trees =>
    obtain ⟨held, ended⟩ := Raw.object.inj (same.trans (ofJson.eq_6 trees))
    exact ⟨trees, rfl, held, ended⟩
  | _ => simp [ofJson] at same

private theorem array_eq_ofJson {items : List Raw} {ending : ListEnd} {tree : Json}
    (same : Raw.array items ending = ofJson tree) :
    ∃ trees, tree = .array trees ∧ items = ofItems trees ∧ ending = .closed := by
  cases tree with
  | array trees =>
    obtain ⟨held, ended⟩ := Raw.array.inj (same.trans (ofJson.eq_5 trees))
    exact ⟨trees, rfl, held, ended⟩
  | _ => simp [ofJson] at same

private theorem null_eq_ofJson {tree : Json} (same : Raw.null = ofJson tree) : tree = .null := by
  cases tree with
  | null => rfl
  | _ => simp [ofJson] at same

private theorem bool_eq_ofJson {b : Bool} {tree : Json} (same : Raw.bool b = ofJson tree) :
    tree = .bool b := by
  cases tree with
  | bool value => rw [Raw.bool.inj (same.trans (ofJson.eq_2 value))]
  | _ => simp [ofJson] at same

private theorem broken_ne_ofJson {reading skipping : JsonFault} {tree : Json} :
    Raw.broken reading skipping ≠ ofJson tree := by
  cases tree <;> simp [ofJson]

private theorem cons_eq_ofMembers {name : Except JsonFault String} {value : Raw}
    {members : List (Except JsonFault String × Raw)} {trees : List (String × Json)}
    (same : (name, value) :: members = ofMembers trees) :
    ∃ key tree others, trees = (key, tree) :: others ∧ name = .ok key ∧ value = ofJson tree ∧
      members = ofMembers others := by
  cases trees with
  | nil => contradiction
  | cons head others =>
    obtain ⟨key, tree⟩ := head
    obtain ⟨first, rest⟩ := List.cons.inj same
    obtain ⟨named, held⟩ := Prod.mk.inj first
    exact ⟨key, tree, others, rfl, named, held, rest⟩

section Step
variable {fuel : Nat} (sound : Sound fuel) {first : Bool} {s : List Char}
  {after : Option (List Char)}
include sound

theorem Sound.value_succ {tree : Json} (scanned : scan (fuel + 1) s = (ofJson tree, after)) :
    FoundValue tree s after := by
  obtain ⟨blank, spaces, cut⟩ := skipSpace_cut s
  suffices found : ∃ text rest, Written (.value tree) text ∧ skipSpace s = text ++ rest ∧
      after = some rest by
    obtain ⟨text, rest, written, same, ended⟩ := found
    exact ⟨blank, text, rest, spaces, written, by rw [← same]; exact cut, ended⟩
  unfold scan at scanned
  generalize skipSpace s = solid at scanned
  cases solid with
  | nil => exact absurd (Prod.mk.inj scanned).1 broken_ne_ofJson
  | cons c rest =>
    dsimp only at scanned
    split at scanned
    next quote =>
      subst quote
      obtain ⟨value, rest, read, left, rfl, rfl⟩ := text_eq_ofJson scanned
      obtain ⟨text, rest, ended, rfl, body⟩ := scanString_body read
      cases left.symm.trans ended
      exact ⟨'"' :: text, rest, .string body, rfl, rfl⟩
    split at scanned
    next brace =>
      subst brace
      rcases inner : scanMembers fuel true rest with ⟨members, ending, rest⟩
      rw [inner] at scanned
      obtain ⟨whole, rfl⟩ := Prod.mk.inj scanned
      obtain ⟨trees, rfl, rfl, rfl⟩ := object_eq_ofJson whole
      obtain ⟨text, rest, written, rfl, rfl⟩ := sound.members inner
      exact ⟨'\x7b' :: text, rest, .object written, rfl, rfl⟩
    split at scanned
    next bracket =>
      subst bracket
      rcases inner : scanItems fuel true rest with ⟨items, ending, rest⟩
      rw [inner] at scanned
      obtain ⟨whole, rfl⟩ := Prod.mk.inj scanned
      obtain ⟨trees, rfl, rfl, rfl⟩ := array_eq_ofJson whole
      obtain ⟨text, rest, written, rfl, rfl⟩ := sound.items inner
      exact ⟨'[' :: text, rest, .array written, rfl, rfl⟩
    split at scanned
    next letter =>
      subst letter
      obtain ⟨rest, rfl, held, rfl⟩ := word_eq_ofJson scanned
      obtain rfl := null_eq_ofJson held
      exact ⟨_, rest, .null, rfl, rfl⟩
    split at scanned
    next letter =>
      subst letter
      obtain ⟨rest, rfl, held, rfl⟩ := word_eq_ofJson scanned
      obtain rfl := bool_eq_ofJson held
      exact ⟨_, rest, .yes, rfl, rfl⟩
    split at scanned
    next letter =>
      subst letter
      obtain ⟨rest, rfl, held, rfl⟩ := word_eq_ofJson scanned
      obtain rfl := bool_eq_ofJson held
      exact ⟨_, rest, .no, rfl, rfl⟩
    split at scanned
    next minus =>
      subst minus
      obtain ⟨n, rest, read, rfl, rfl⟩ := numeral_eq_ofJson scanned
      obtain ⟨d, more, digit, rfl, taken⟩ := scanNumber_takes read
      exact ⟨'-' :: d :: more, rest, .negative digit taken, rfl, rfl⟩
    split at scanned
    next =>
      obtain ⟨n, rest, read, rfl, rfl⟩ := numeral_eq_ofJson scanned
      obtain ⟨d, more, digit, same, taken⟩ := scanNumber_takes read
      exact ⟨d :: more, rest, .number digit taken, same, rfl⟩
    · exact absurd (Prod.mk.inj scanned).1 broken_ne_ofJson

theorem Sound.item_succ {trees : List Json}
    (scanned : scanItem (fuel + 1) s = (ofItems trees, .closed, after)) :
    FoundItem trees s after := by
  rcases first : scan fuel s with ⟨item, left⟩
  cases left with
  | none =>
    simp only [scanItem, first, Prod.mk.injEq] at scanned
    obtain ⟨held, -, rfl⟩ := scanned
    cases trees with
    | nil => contradiction
    | cons tree others =>
      obtain ⟨rfl, -⟩ := List.cons.inj held
      obtain ⟨_, _, _, _, _, _, ended⟩ := sound.value first
      contradiction
  | some rest =>
    rcases onward : scanItems fuel false rest with ⟨items, ending, left⟩
    simp only [scanItem, first, onward, Prod.mk.injEq] at scanned
    obtain ⟨held, rfl, rfl⟩ := scanned
    cases trees with
    | nil => contradiction
    | cons tree others =>
      obtain ⟨rfl, rfl⟩ := List.cons.inj held
      obtain ⟨blank, text, _, spaces, head, rfl, ended⟩ := sound.value first
      obtain rfl := Option.some.inj ended
      obtain ⟨more, rest, tail, rfl, rfl⟩ := sound.items onward
      exact ⟨blank, text, more, rest, tree, others, spaces, head, tail, rfl, rfl, rfl⟩

theorem Sound.items_succ {trees : List Json}
    (scanned : scanItems (fuel + 1) first s = (ofItems trees, .closed, after)) :
    FoundItems first trees s after := by
  obtain ⟨blank, spaces, cut⟩ := skipSpace_cut s
  unfold scanItems at scanned
  generalize skipSpace s = solid at scanned cut
  split at scanned
  · simp at scanned
  next rest =>
    obtain ⟨held, -, rfl⟩ : [] = ofItems trees ∧ True ∧ some rest = after := by simpa using scanned
    cases trees with
    | nil => exact ⟨blank ++ [']'], rest, .noItem first spaces, by rw [cut]; simp, rfl⟩
    | cons tree others => contradiction
  next c rest _ =>
    split at scanned
    next isFirst =>
      subst isFirst
      obtain ⟨gap, text, more, left, tree, others, empty, head, tail, rfl, same, rfl⟩ :=
        sound.item scanned
      refine ⟨(blank ++ gap) ++ (text ++ more), left,
        .item (.first (spaces.append empty)) head tail, ?_, rfl⟩
      rw [cut, same]
      simp
    next notFirst =>
      rw [Bool.not_eq_true] at notFirst
      subst notFirst
      split at scanned
      next comma =>
        subst comma
        obtain ⟨pause, paused, onward⟩ := skipSpace_cut rest
        generalize skipSpace rest = solid at scanned onward
        split at scanned
        · simp at scanned
        · simp at scanned
        next =>
          obtain ⟨gap, text, more, left, tree, others, empty, head, tail, rfl, same, rfl⟩ :=
            sound.item scanned
          refine ⟨(blank ++ ',' :: (pause ++ gap)) ++ (text ++ more), left,
            .item (.next spaces (paused.append empty)) head tail, ?_, rfl⟩
          rw [cut, onward, same]
          simp
      · simp at scanned

theorem Sound.member_succ {trees : List (String × Json)}
    (scanned : scanMember (fuel + 1) s = (ofMembers trees, .closed, after)) :
    FoundMember trees s after := by
  unfold scanMember at scanned
  dsimp only at scanned
  split at scanned
  next => split at scanned <;> simp at scanned
  next afterKey left =>
    obtain ⟨before, spaces, cut⟩ := skipSpace_cut afterKey
    generalize skipSpace afterKey = solid at scanned cut
    split at scanned
    next =>
      obtain ⟨_, _, _, _, -, held, -⟩ := cons_eq_ofMembers (Prod.mk.inj scanned).1
      exact absurd held broken_ne_ofJson
    next rest =>
      rcases inner : scan fuel rest with ⟨value, ended⟩
      rw [inner] at scanned
      cases ended with
      | none =>
        obtain ⟨_, _, _, _, -, rfl, -⟩ := cons_eq_ofMembers (Prod.mk.inj scanned).1
        obtain ⟨_, _, _, _, _, _, none⟩ := sound.value inner
        contradiction
      | some rest =>
        rcases onward : scanMembers fuel false rest with ⟨members, ending, ended⟩
        simp only [onward, Prod.mk.injEq] at scanned
        obtain ⟨held, rfl, rfl⟩ := scanned
        obtain ⟨key, tree, others, rfl, named, rfl, rfl⟩ := cons_eq_ofMembers held
        obtain ⟨blank, text, _, gap, head, rfl, same⟩ := sound.value inner
        obtain rfl := Option.some.inj same
        obtain ⟨more, rest, tail, rfl, rfl⟩ := sound.members onward
        cases read : (scanString fuel s).text with
        | error fault =>
          rw [read] at named
          contradiction
        | ok name =>
          rw [read] at named
          obtain rfl := Except.ok.inj named
          obtain ⟨spelled, _, ended, rfl, body⟩ := scanString_body read
          cases left.symm.trans ended
          exact ⟨spelled, name, before, blank, text, more, rest, tree, others, body, spaces, gap,
            head, tail, rfl, by rw [cut], rfl⟩
    next =>
      obtain ⟨_, _, _, _, -, held, -⟩ := cons_eq_ofMembers (Prod.mk.inj scanned).1
      exact absurd held broken_ne_ofJson

theorem Sound.members_succ {trees : List (String × Json)}
    (scanned : scanMembers (fuel + 1) first s = (ofMembers trees, .closed, after)) :
    FoundMembers first trees s after := by
  obtain ⟨blank, spaces, cut⟩ := skipSpace_cut s
  unfold scanMembers at scanned
  generalize skipSpace s = solid at scanned cut
  split at scanned
  · simp at scanned
  next rest =>
    obtain ⟨held, -, rfl⟩ : [] = ofMembers trees ∧ True ∧ some rest = after := by
      simpa using scanned
    cases trees with
    | nil => exact ⟨blank ++ ['\x7d'], rest, .noMember first spaces, by rw [cut]; simp, rfl⟩
    | cons tree others => contradiction
  next c rest _ =>
    split at scanned
    next isFirst =>
      subst isFirst
      split at scanned
      next quote =>
        subst quote
        obtain ⟨key, name, before, gap, text, more, left, tree, others, body, gapBefore, gapAfter,
          head, tail, rfl, rfl, rfl⟩ := sound.member scanned
        exact ⟨_, left, .member (.first spaces) body gapBefore gapAfter head tail,
          by rw [cut]; simp, rfl⟩
      · simp at scanned
    next notFirst =>
      rw [Bool.not_eq_true] at notFirst
      subst notFirst
      split at scanned
      next comma =>
        subst comma
        obtain ⟨pause, paused, onward⟩ := skipSpace_cut rest
        generalize skipSpace rest = solid at scanned onward
        split at scanned
        · simp at scanned
        next =>
          obtain ⟨key, name, before, gap, text, more, left, tree, others, body, gapBefore, gapAfter,
            head, tail, rfl, rfl, rfl⟩ := sound.member scanned
          exact ⟨_, left, .member (.next spaces paused) body gapBefore gapAfter head tail,
            by rw [cut, onward]; simp, rfl⟩
        · simp at scanned
        · simp at scanned
      · simp at scanned

end Step

theorem sound (fuel : Nat) : Sound fuel := by
  induction fuel with
  | zero =>
    constructor
    case value => exact fun scanned => absurd (Prod.mk.inj scanned).1 broken_ne_ofJson
    all_goals
      intros
      simp_all [scanItems, scanItem, scanMembers, scanMember]
  | succ fuel ih =>
    exact ⟨ih.value_succ, ih.items_succ, ih.item_succ, ih.members_succ, ih.member_succ⟩

end Soundness

section Completeness

def Scans : Piece → List Char → Prop
  | .value tree, text => ∀ fuel blank rest, 3 * text.length ≤ fuel → Spaces blank → Parted rest →
      scan fuel (blank ++ (text ++ rest)) = (ofJson tree, some rest)
  | .items first trees, text => ∀ fuel rest, 3 * text.length + 2 ≤ fuel →
      scanItems fuel first (text ++ rest) = (ofItems trees, .closed, some rest)
  | .members first trees, text => ∀ fuel rest, 3 * text.length + 2 ≤ fuel →
      scanMembers fuel first (text ++ rest) = (ofMembers trees, .closed, some rest)

theorem isSpace_of_isDigit {c : Char} (digit : c.isDigit = true) : isSpace c = false := by
  rw [← Bool.not_eq_true]
  intro space
  simp only [isSpace, Bool.or_eq_true, beq_iff_eq] at space
  rcases space with ((rfl | rfl) | rfl) | rfl <;> exact absurd digit (by decide)

theorem isFigure_of_isSpace {c : Char} (space : isSpace c = true) : isFigure c = false := by
  simp only [isSpace, Bool.or_eq_true, beq_iff_eq] at space
  rcases space with ((rfl | rfl) | rfl) | rfl <;> decide

theorem Written.opens {tree : Json} {text : List Char} (written : Written (.value tree) text) :
    ∃ c more, text = c :: more ∧ isSpace c = false ∧ c ≠ ']' := by
  generalize form : Piece.value tree = piece at written
  cases written with
  | number digit taken =>
    refine ⟨_, _, rfl, isSpace_of_isDigit digit, ?_⟩
    rintro rfl
    exact absurd digit (by decide)
  | noItem | item | noMember | member => contradiction
  | _ => exact ⟨_, _, rfl, by decide, by decide⟩

theorem parted_after_spaces {blank : List Char} (spaces : Spaces blank) {c : Char}
    (other : isFigure c = false) (rest : List Char) : Parted (blank ++ c :: rest) := by
  cases blank with
  | nil => exact parted_cons rest other
  | cons d blank => exact parted_cons _ (isFigure_of_isSpace (spaces d List.mem_cons_self))

theorem Written.parted_items {trees : List Json} {text : List Char}
    (written : Written (.items false trees) text) (rest : List Char) : Parted (text ++ rest) := by
  generalize form : Piece.items false trees = piece at written
  cases written with
  | noItem first spaces =>
    rw [List.append_assoc]
    exact parted_after_spaces spaces (by decide) _
  | item opened head tail =>
    cases form
    cases opened with
    | next left right =>
      simp only [List.append_assoc, List.cons_append]
      exact parted_after_spaces left (by decide) _
  | _ => contradiction

theorem Written.parted_members {trees : List (String × Json)} {text : List Char}
    (written : Written (.members false trees) text) (rest : List Char) : Parted (text ++ rest) := by
  generalize form : Piece.members false trees = piece at written
  cases written with
  | noMember first spaces =>
    rw [List.append_assoc]
    exact parted_after_spaces spaces (by decide) _
  | member opened body left right head tail =>
    cases form
    cases opened with
    | next left right =>
      simp only [List.append_assoc, List.cons_append]
      exact parted_after_spaces left (by decide) _
  | _ => contradiction

private theorem ne_of_isDigit {c d : Char} (digit : d.isDigit = true) (other : c.isDigit = false) :
    d ≠ c := by
  rintro rfl
  rw [digit] at other
  contradiction

private theorem scan_unsigned {d : Char} (digit : d.isDigit = true) (fuel : Nat)
    (rest : List Char) :
    scan (fuel + 1) (d :: rest) = numeral (scanNumber false (d :: rest)) := by
  have other {c : Char} (notDigit : c.isDigit = false) : d ≠ c := ne_of_isDigit digit notDigit
  simp [scan, skipSpace, isSpace_of_isDigit digit, digit, other (c := '"') rfl,
    other (c := '\x7b') rfl, other (c := '[') rfl, other (c := 'n') rfl, other (c := 't') rfl,
    other (c := 'f') rfl, other (c := '-') rfl]

private theorem scanItems_lead {first : Bool} {lead : List Char} (opened : Lead first lead)
    {c : Char} (solid : isSpace c = false) (unclosed : c ≠ ']') (fuel : Nat) (rest : List Char) :
    scanItems (fuel + 1) first (lead ++ c :: rest) = scanItem fuel (c :: rest) := by
  cases opened with
  | first spaces => simp [scanItems, skipSpace_append spaces solid]
  | next left right =>
    simp [scanItems, skipSpace_append left (c := ',') (by decide), skipSpace_append right solid,
      unclosed]

private theorem scanMembers_lead {first : Bool} {lead : List Char} (opened : Lead first lead)
    (fuel : Nat) (rest : List Char) :
    scanMembers (fuel + 1) first (lead ++ '"' :: rest) = scanMember fuel rest := by
  have quote : isSpace '"' = false := by decide
  cases opened with
  | first spaces => simp [scanMembers, skipSpace_append spaces quote]
  | next left right =>
    simp [scanMembers, skipSpace_append left (c := ',') (by decide), skipSpace_append right quote]

private theorem scans_value {tree : Json} {c : Char} {text : List Char} (solid : isSpace c = false)
    (reads : ∀ fuel rest, 3 * text.length + 2 ≤ fuel → Parted rest →
      scan (fuel + 1) (c :: (text ++ rest)) = (ofJson tree, some rest)) :
    Scans (.value tree) (c :: text) := by
  intro fuel blank rest enough spaces parted
  rw [List.length_cons] at enough
  cases fuel with
  | zero => omega
  | succ fuel =>
    have bare : skipSpace (c :: (text ++ rest)) = c :: (text ++ rest) := by
      simp [skipSpace, solid]
    have skipped : scan (fuel + 1) (blank ++ (c :: text ++ rest)) =
        scan (fuel + 1) (c :: (text ++ rest)) := by
      simp only [scan, List.cons_append, skipSpace_append spaces solid, bare]
    rw [skipped, reads fuel rest (by omega) parted]

private theorem scans_item {first : Bool} {lead text more : List Char} {tree : Json}
    {trees : List Json} (opened : Lead first lead) (head : Written (.value tree) text)
    (tail : Written (.items false trees) more) (headScans : Scans (.value tree) text)
    (tailScans : Scans (.items false trees) more) :
    Scans (.items first (tree :: trees)) (lead ++ (text ++ more)) := by
  intro fuel rest enough
  obtain ⟨c, others, rfl, solid, unclosed⟩ := head.opens
  simp only [List.length_append, List.length_cons] at enough
  obtain ⟨fuel, rfl⟩ : ∃ less, fuel = less + 2 := ⟨fuel - 2, by omega⟩
  have read := headScans fuel [] _ (by rw [List.length_cons]; omega) (by simp [Spaces])
    (tail.parted_items rest)
  have onward := tailScans fuel rest (by omega)
  simp only [List.append_assoc, List.cons_append, List.nil_append] at read ⊢
  rw [scanItems_lead opened solid unclosed, scanItem, read]
  simp only [onward]
  rfl

private theorem scans_member {first : Bool} {lead key name before after text more : List Char}
    {tree : Json} {trees : List (String × Json)} (opened : Lead first lead) (body : Body key name)
    (left : Spaces before) (right : Spaces after) (tail : Written (.members false trees) more)
    (headScans : Scans (.value tree) text) (tailScans : Scans (.members false trees) more) :
    Scans (.members first ((String.ofList name, tree) :: trees))
      (lead ++ '"' :: (key ++ (before ++ ':' :: (after ++ (text ++ more))))) := by
  intro fuel rest enough
  simp only [List.length_append, List.length_cons] at enough
  obtain ⟨fuel, rfl⟩ : ∃ less, fuel = less + 2 := ⟨fuel - 2, by omega⟩
  have named := body.scanString_append fuel (by omega)
    (before ++ ':' :: (after ++ (text ++ (more ++ rest))))
  have read := headScans fuel after _ (by omega) right (tail.parted_members rest)
  have onward := tailScans fuel rest (by omega)
  simp only [List.append_assoc, List.cons_append] at read ⊢
  rw [scanMembers_lead opened, scanMember, named]
  simp only [skipSpace_append left (c := ':') (by decide), read, onward]
  rfl

theorem Written.scans {piece : Piece} {text : List Char} (written : Written piece text) :
    Scans piece text := by
  induction written with
  | null | yes | no =>
    refine scans_value (by decide) fun fuel rest _ _ => ?_
    simp [scan, skipSpace, isSpace, word, scanWord, ofJson]
  | number digit taken =>
    refine scans_value (isSpace_of_isDigit digit) fun fuel rest _ parted => ?_
    rw [scan_unsigned digit, ← List.cons_append, taken.reads rest parted]
    rfl
  | negative digit taken =>
    refine scans_value (by decide) fun fuel rest _ parted => ?_
    have read := taken.reads rest parted
    rw [List.cons_append] at read
    simp [scan, skipSpace, isSpace, read, numeral, ofJson]
  | string body =>
    refine scans_value (by decide) fun fuel rest enough _ => ?_
    have read := body.scanString_append fuel (by omega) rest
    simp [scan, skipSpace, isSpace, read, Raw.text, ofJson]
  | array items ih =>
    refine scans_value (by decide) fun fuel rest enough _ => ?_
    have read := ih fuel rest enough
    simp [scan, skipSpace, isSpace, read, ofJson]
  | object members ih =>
    refine scans_value (by decide) fun fuel rest enough _ => ?_
    have read := ih fuel rest enough
    simp [scan, skipSpace, isSpace, read, ofJson]
  | noItem first spaces =>
    intro fuel rest enough
    cases fuel with
    | zero => simp at enough
    | succ fuel => simp [scanItems, skipSpace_append spaces (c := ']') (by decide), ofItems]
  | noMember first spaces =>
    intro fuel rest enough
    cases fuel with
    | zero => simp at enough
    | succ fuel => simp [scanMembers, skipSpace_append spaces (c := '\x7d') (by decide), ofMembers]
  | item opened head tail headScans tailScans =>
    exact scans_item opened head tail headScans tailScans
  | member opened body left right head tail headScans tailScans =>
    exact scans_member opened body left right tail headScans tailScans

end Completeness

section Reading

theorem read_array {items : List Raw} {ending : ListEnd} {depth : Option Nat} {v : Json}
    (known : read depth (.array items ending) = .ok v) :
    ∃ held, readItems (depth.map (· - 1)) items = .ok held ∧ ending = .closed ∧
      v = .array held := by
  rw [read] at known
  split at known
  · contradiction
  · obtain ⟨held, inner, known⟩ := bind_eq_ok known
    cases ending with
    | closed => exact ⟨held, inner, rfl, (Except.ok.inj known).symm⟩
    | broken reading skipping satisfied => contradiction

theorem read_object {members : List (Except JsonFault String × Raw)} {ending : MapEnd}
    {depth : Option Nat} {v : Json} (known : read depth (.object members ending) = .ok v) :
    ∃ held, readMembers (depth.map (· - 1)) members = .ok held ∧ ending = .closed ∧
      v = .object (sortMembers held) := by
  rw [read] at known
  split at known
  · contradiction
  · obtain ⟨held, inner, known⟩ := bind_eq_ok known
    cases ending with
    | closed => exact ⟨held, inner, rfl, (Except.ok.inj known).symm⟩
    | broken reading skipping => contradiction

theorem readItems_cons {item : Raw} {items : List Raw} {depth : Option Nat} {held : List Json}
    (known : readItems depth (item :: items) = .ok held) :
    ∃ v vs, read depth item = .ok v ∧ readItems depth items = .ok vs ∧ held = v :: vs := by
  rw [readItems] at known
  obtain ⟨v, first, known⟩ := bind_eq_ok known
  obtain ⟨vs, rest, known⟩ := bind_eq_ok known
  exact ⟨v, vs, first, rest, (Except.ok.inj known).symm⟩

theorem readMembers_cons {key : Except JsonFault String} {value : Raw}
    {members : List (Except JsonFault String × Raw)} {depth : Option Nat}
    {held : List (String × Json)} (known : readMembers depth ((key, value) :: members) = .ok held) :
    ∃ name v others, key = .ok name ∧ read depth value = .ok v ∧
      readMembers depth members = .ok others ∧ held = (name, v) :: others := by
  rw [readMembers] at known
  obtain ⟨name, named, known⟩ := bind_eq_ok known
  obtain ⟨v, first, known⟩ := bind_eq_ok known
  obtain ⟨others, rest, known⟩ := bind_eq_ok known
  exact ⟨name, v, others, named, first, rest, (Except.ok.inj known).symm⟩

mutual

theorem unbroken_of_read {raw : Raw} {depth : Option Nat} {v : Json}
    (known : read depth raw = .ok v) : ∃ tree, raw = ofJson tree := by
  cases raw with
  | null => exact ⟨.null, rfl⟩
  | bool b => exact ⟨.bool b, rfl⟩
  | number n => exact ⟨.number n, rfl⟩
  | string s => exact ⟨.string s, rfl⟩
  | unreadable fault => simp [read] at known
  | broken reading skipping => simp [read] at known
  | array items ending =>
    obtain ⟨held, inner, rfl, -⟩ := read_array known
    obtain ⟨trees, rfl⟩ := unbroken_of_readItems inner
    exact ⟨.array trees, rfl⟩
  | object members ending =>
    obtain ⟨held, inner, rfl, -⟩ := read_object known
    obtain ⟨trees, rfl⟩ := unbroken_of_readMembers inner
    exact ⟨.object trees, rfl⟩

theorem unbroken_of_readItems {items : List Raw} {depth : Option Nat} {held : List Json}
    (known : readItems depth items = .ok held) : ∃ trees, items = ofItems trees := by
  cases items with
  | nil => exact ⟨[], rfl⟩
  | cons item items =>
    obtain ⟨v, vs, first, rest, -⟩ := readItems_cons known
    obtain ⟨tree, rfl⟩ := unbroken_of_read first
    obtain ⟨trees, rfl⟩ := unbroken_of_readItems rest
    exact ⟨tree :: trees, rfl⟩

theorem unbroken_of_readMembers {members : List (Except JsonFault String × Raw)}
    {depth : Option Nat} {held : List (String × Json)}
    (known : readMembers depth members = .ok held) : ∃ trees, members = ofMembers trees := by
  cases members with
  | nil => exact ⟨[], rfl⟩
  | cons member members =>
    obtain ⟨key, value⟩ := member
    obtain ⟨name, v, others, rfl, first, rest, -⟩ := readMembers_cons known
    obtain ⟨tree, rfl⟩ := unbroken_of_read first
    obtain ⟨trees, rfl⟩ := unbroken_of_readMembers rest
    exact ⟨(name, tree) :: trees, rfl⟩

end

theorem keys_of_readMembers {trees : List (String × Json)} {depth : Option Nat}
    {held : List (String × Json)} (known : readMembers depth (ofMembers trees) = .ok held) :
    held.map (·.1) = trees.map (·.1) := by
  induction trees generalizing held with
  | nil =>
    obtain rfl := Except.ok.inj known
    rfl
  | cons member trees ih =>
    obtain ⟨_, v, others, named, -, rest, rfl⟩ := readMembers_cons known
    obtain rfl := Except.ok.inj named
    rw [List.map_cons, List.map_cons, ih rest]

theorem object_of_read {tree : Json} {depth : Option Nat} {members : List (String × Json)}
    (known : read depth (ofJson tree) = .ok (.object members)) :
    ∃ trees, tree = .object trees ∧ ∀ key, key ∈ members.map (·.1) ↔ key ∈ trees.map (·.1) := by
  cases tree with
  | object trees =>
    obtain ⟨held, inner, -, same⟩ := read_object known
    obtain rfl := Json.object.inj same
    refine ⟨trees, rfl, fun key => ?_⟩
    rw [mem_keys_sortMembers, keys_of_readMembers inner]
  | array trees =>
    obtain ⟨held, -, -, same⟩ := read_array known
    contradiction
  | _ => simp [ofJson, read] at known

end Reading

theorem parted_of_spaces {blank : List Char} (spaces : Spaces blank) : Parted blank := by
  intro c first
  exact isFigure_of_isSpace (spaces c (List.mem_of_mem_head? first))

/-- A text is read as the value that the tree written in it is read as. -/
theorem parse_eq_ok_iff (s : String) (v : Json) :
    Json.parse s = .ok v ↔ ∃ lead text trail tree, s.toList = lead ++ (text ++ trail) ∧
      Spaces lead ∧ Written (.value tree) text ∧ Spaces trail ∧
      read (some maxDepth) (ofJson tree) = .ok v := by
  constructor
  · intro parsed
    unfold Json.parse ofText at parsed
    rcases scanned : scan (3 * s.toList.length + 3) s.toList with ⟨root, rest⟩
    simp only [scanned] at parsed
    cases known : read (some maxDepth) root with
    | error fault => simp [known, bind, Except.bind] at parsed
    | ok held =>
      obtain ⟨tree, rfl⟩ := unbroken_of_read known
      obtain ⟨lead, text, trail, before, written, cut, rfl⟩ := (sound _).value scanned
      simp only [known, bind, Except.bind] at parsed
      split at parsed
      · contradiction
      next blank =>
        obtain rfl := Except.ok.inj parsed
        refine ⟨lead, text, trail, tree, cut, before, written, ?_, known⟩
        exact List.dropWhile_eq_nil_iff.mp (by simpa [skipSpace] using blank)
  · rintro ⟨lead, text, trail, tree, cut, before, written, after, known⟩
    have scanned : scan (3 * s.toList.length + 3) s.toList = (ofJson tree, some trail) := by
      rw [cut]
      refine written.scans _ _ _ ?_ before (parted_of_spaces after)
      simp only [List.length_append]
      omega
    simp [Json.parse, ofText, scanned, known, skipSpace_of_spaces after, bind, Except.bind]

theorem object_of_parse {s : String} {members : List (String × Json)}
    (parsed : Json.parse s = .ok (.object members)) :
    ∃ lead inner trail trees, s.toList = lead ++ '\x7b' :: (inner ++ trail) ∧ Spaces lead ∧
      Written (.members true trees) inner ∧ Spaces trail ∧
      read (some maxDepth) (ofJson (.object trees)) = .ok (.object members) := by
  obtain ⟨lead, text, trail, tree, cut, before, written, after, known⟩ :=
    (parse_eq_ok_iff s _).mp parsed
  obtain ⟨trees, rfl, -⟩ := object_of_read known
  cases written with
  | object written => exact ⟨lead, _, trail, trees, cut, before, written, after, known⟩

def Closes : Piece → List Char → Prop
  | .members _ _, text => text.getLast? = some '\x7d'
  | _, _ => True

theorem Written.closes {piece : Piece} {text : List Char} (written : Written piece text) :
    Closes piece text := by
  induction written with
  | noMember => simp [Closes]
  | member opened body left right head tail headCloses tailCloses =>
    have last := tailCloses
    simp only [Closes] at last
    simp [Closes, List.getLast?_append, List.getLast?_cons, last]
  | _ => trivial

end PathAudit.Raw
