import PathAudit.Proofs.Json.Compact
import PathAudit.Proofs.Json.Grammar
import Mathlib.Tactic.IntervalCases

/-! What becomes of a value that is written and read again. The compact text of a value is read as
the value that was written, but for its numbers: each is read as its own text is. Integers of 64
bits are read as themselves; a double may be read as a neighbour, or not at all. A free-form reader
wants the members in order besides, and not too deep a nesting. -/
namespace PathAudit

open Raw

section Texts

private theorem escapeChar_control {c : Char} (control : c.toNat < 32) :
    ∃ escape, Json.escapeChar c = '\\' :: escape ∧ Escape escape c := by
  have all : ∀ k < 32, ∃ escape, Json.escapeChar (Char.ofNat k) = '\\' :: escape ∧
      Escape escape (Char.ofNat k) := by
    intro k small
    interval_cases k <;> first
      | exact ⟨_, rfl, .simple rfl⟩
      | exact ⟨_, rfl, .code ⟨List.all_eq_true.mp rfl, fun _ => rfl⟩ (by decide)⟩
  have found := all c.toNat control
  rwa [Char.ofNat_toNat] at found

theorem body_escaped (value : List Char) : Body (value.flatMap Json.escapeChar ++ ['"']) value := by
  induction value with
  | nil => exact .closed
  | cons c value ih =>
    rw [List.flatMap_cons, List.append_assoc]
    by_cases quote : c = '"'
    · subst quote
      exact .escaped (.simple rfl) ih
    by_cases backslash : c = '\\'
    · subst backslash
      exact .escaped (.simple rfl) ih
    by_cases control : c.toNat < 32
    · obtain ⟨escape, shown, known⟩ := escapeChar_control control
      rw [shown, List.cons_append]
      exact .escaped known ih
    · have plain : Json.escapeChar c = [c] := by
        simp only [Json.escapeChar, quote, backslash, control, if_false]
      rw [plain]
      exact .plain quote backslash (Nat.le_of_not_lt control) ih

theorem written_string (s : String) : Written (.value (.string s)) (Json.quoteText s) := by
  have written := Written.string (body_escaped s.toList)
  rwa [String.ofList_toList] at written

end Texts

section Numbers

theorem ofDigitChars_le (digits : List Char) (n : Nat) :
    n ≤ Nat.ofDigitChars 10 digits n := by
  induction digits generalizing n with
  | nil => exact Nat.le_refl n
  | cons d digits ih =>
    rw [Nat.ofDigitChars_cons]
    exact Nat.le_trans (by omega) (ih _)

theorem accumulate_eq (digits : List Char) (n : Nat)
    (fits : Nat.ofDigitChars 10 digits n < 2 ^ 64) :
    accumulate n digits = (Nat.ofDigitChars 10 digits n, []) := by
  induction digits generalizing n with
  | nil => rfl
  | cons d digits ih =>
    rw [Nat.ofDigitChars_cons] at fits ⊢
    have next : n * 10 + (d.toNat - 48) = 10 * n + (d.toNat - '0'.toNat) := by
      rw [Nat.mul_comm]
      rfl
    have small := Nat.lt_of_le_of_lt (ofDigitChars_le digits _) fits
    unfold accumulate
    dsimp only
    rw [next]
    exact (if_pos small).trans (ih _ fits)

theorem toDigits_opens {n : Nat} (positive : 0 < n) :
    ∃ d digits, Nat.toDigits 10 n = d :: digits ∧ d ≠ '0' := by
  induction n using Nat.strongRecOn with
  | ind n ih =>
    by_cases small : n < 10
    · refine ⟨n.digitChar, [], Nat.toDigits_of_lt_base small, ?_⟩
      interval_cases n <;> decide
    · have long : 10 ≤ n := Nat.le_of_not_lt small
      obtain ⟨d, digits, opens, nonzero⟩ := ih (n / 10) (by omega) (by omega)
      refine ⟨d, digits ++ [(n % 10).digitChar], ?_, nonzero⟩
      rw [Nat.toDigits_of_base_le (by decide) long, opens, List.cons_append]

theorem scanNumber_digits (negative : Bool) {n : Nat} (fits : n < 2 ^ 64)
    (whole : negative = true → 0 < n ∧ n ≤ 2 ^ 63) :
    scanNumber negative (Nat.toDigits 10 n) =
      .ok (.ok (.int (if negative then -(n : Int) else n)), []) := by
  have all : ∀ c ∈ Nat.toDigits 10 n, c.isDigit = true := fun c member =>
    Nat.isDigit_of_mem_toDigits (by decide) (by decide) member
  obtain ⟨taken, dropped⟩ := @span_isDigit _ [] all (by simp)
  rw [List.append_nil] at taken dropped
  have read : accumulate 0 (Nat.toDigits 10 n) = (n, []) := by
    rw [accumulate_eq _ _ (by rwa [Nat.ofDigitChars_ten_toDigits]), Nat.ofDigitChars_ten_toDigits]
  unfold scanNumber
  rw [taken, dropped]
  dsimp only
  split
  next empty => exact absurd empty Nat.toDigits_ne_nil
  next second rest opens =>
    -- Only zero opens with a zero, and it has no second digit.
    rcases Nat.eq_zero_or_pos n with rfl | positive
    · simp at opens
    · obtain ⟨d, digits, shown, nonzero⟩ := toDigits_opens positive
      rw [shown] at opens
      exact absurd (List.cons.inj opens).1 nonzero
  next =>
    rw [read]
    cases negative with
    | false => rfl
    | true =>
      obtain ⟨positive, small⟩ := whole rfl
      have other : ¬(n = 0 ∨ Nat.pow 2 63 < n) := by
        rintro (zero | large)
        · omega
        · exact absurd large (Nat.not_lt.mpr small)
      simp [other]

theorem written_scanned {negative : Bool} {text : List Char} {n : JsonNumber}
    (scanned : scanNumber negative text = .ok (.ok n, [])) :
    Written (.value (.number n)) (if negative then '-' :: text else text) := by
  obtain ⟨d, more, digit, cut, taken⟩ := scanNumber_takes scanned
  rw [List.append_nil] at cut
  rw [cut]
  cases negative with
  | false => exact .number digit taken
  | true => exact .negative digit taken

theorem written_int {i : Int} (least : -2 ^ 63 ≤ i) (greatest : i < 2 ^ 64) :
    Written (.value (.number (.int i))) (Json.numberText (.int i)) := by
  have small : i.natAbs < 2 ^ 64 := by omega
  have whole : decide (i < 0) = true → 0 < i.natAbs ∧ i.natAbs ≤ 2 ^ 63 := by
    rw [decide_eq_true_iff]
    omega
  have value : (if decide (i < 0) = true then -(i.natAbs : Int) else i.natAbs) = i := by
    split
    next below => rw [decide_eq_true_iff] at below; omega
    next above => rw [decide_eq_true_iff] at above; omega
  have written := written_scanned (scanNumber_digits (decide (i < 0)) small whole)
  rw [value] at written
  simp only [decide_eq_true_eq] at written
  exact written

end Numbers

def JsonNumber.reread (n : JsonNumber) : JsonNumber :=
  match Json.parse (Json.number n).compact with
  | .ok (.number m) => m
  | _ => n

def JsonNumber.Readable (n : JsonNumber) : Prop :=
  ∃ m, Json.parse (Json.number n).compact = .ok (.number m)

theorem JsonNumber.Readable.parse {n : JsonNumber} (readable : n.Readable) :
    Json.parse (Json.number n).compact = .ok (.number n.reread) := by
  obtain ⟨m, parsed⟩ := readable
  rw [JsonNumber.reread, parsed]

namespace Json

mutual

def mapNumbers (f : JsonNumber → JsonNumber) : Json → Json
  | .null => .null
  | .bool b => .bool b
  | .number n => .number (f n)
  | .string s => .string s
  | .array items => .array (mapItems f items)
  | .object members => .object (mapMembers f members)

def mapItems (f : JsonNumber → JsonNumber) : List Json → List Json
  | [] => []
  | item :: items => mapNumbers f item :: mapItems f items

def mapMembers (f : JsonNumber → JsonNumber) : List (String × Json) → List (String × Json)
  | [] => []
  | (key, value) :: members => (key, mapNumbers f value) :: mapMembers f members

end

mutual

def AllNumbers (p : JsonNumber → Prop) : Json → Prop
  | .null | .bool _ | .string _ => True
  | .number n => p n
  | .array items => AllItems p items
  | .object members => AllMembers p members

def AllItems (p : JsonNumber → Prop) : List Json → Prop
  | [] => True
  | item :: items => AllNumbers p item ∧ AllItems p items

def AllMembers (p : JsonNumber → Prop) : List (String × Json) → Prop
  | [] => True
  | (_, value) :: members => AllNumbers p value ∧ AllMembers p members

end

mutual

def Ordered : Json → Prop
  | .null | .bool _ | .number _ | .string _ => True
  | .array items => OrderedItems items
  | .object members => Increasing members ∧ OrderedMembers members

def OrderedItems : List Json → Prop
  | [] => True
  | item :: items => Ordered item ∧ OrderedItems items

def OrderedMembers : List (String × Json) → Prop
  | [] => True
  | (_, value) :: members => Ordered value ∧ OrderedMembers members

end

mutual

def depth : Json → Nat
  | .null | .bool _ | .number _ | .string _ => 0
  | .array items => depthOfItems items + 1
  | .object members => depthOfMembers members + 1

def depthOfItems : List Json → Nat
  | [] => 0
  | item :: items => max (depth item) (depthOfItems items)

def depthOfMembers : List (String × Json) → Nat
  | [] => 0
  | (_, value) :: members => max (depth value) (depthOfMembers members)

end

def reread (v : Json) : Json := v.mapNumbers JsonNumber.reread

/-- A value whose text a free-form reader can read. -/
structure Legible (v : Json) : Prop where
  readable : v.AllNumbers JsonNumber.Readable
  ordered : v.Ordered
  shallow : v.depth ≤ maxDepth

section Lists
variable {p : JsonNumber → Prop}

theorem allItems_iff (items : List Json) :
    AllItems p items ↔ ∀ item ∈ items, AllNumbers p item := by
  induction items with
  | nil => exact iff_of_true trivial nofun
  | cons item items ih => rw [AllItems, ih, List.forall_mem_cons]

theorem allMembers_iff (members : List (String × Json)) :
    AllMembers p members ↔ ∀ member ∈ members, AllNumbers p member.2 := by
  induction members with
  | nil => exact iff_of_true trivial nofun
  | cons member members ih => rw [AllMembers, ih, List.forall_mem_cons]

theorem orderedItems_iff (items : List Json) :
    OrderedItems items ↔ ∀ item ∈ items, Ordered item := by
  induction items with
  | nil => exact iff_of_true trivial nofun
  | cons item items ih => rw [OrderedItems, ih, List.forall_mem_cons]

theorem orderedMembers_iff (members : List (String × Json)) :
    OrderedMembers members ↔ ∀ member ∈ members, Ordered member.2 := by
  induction members with
  | nil => exact iff_of_true trivial nofun
  | cons member members ih => rw [OrderedMembers, ih, List.forall_mem_cons]

theorem depthOfItems_le_iff (items : List Json) (d : Nat) :
    depthOfItems items ≤ d ↔ ∀ item ∈ items, item.depth ≤ d := by
  induction items with
  | nil => exact iff_of_true (Nat.zero_le d) nofun
  | cons item items ih => rw [depthOfItems, Nat.max_le, ih, List.forall_mem_cons]

end Lists

section Numbers
variable {p q : JsonNumber → Prop}

mutual

theorem AllNumbers.imp {v : Json} (all : v.AllNumbers p) (onward : ∀ n, p n → q n) :
    v.AllNumbers q := by
  cases v with
  | null | bool | string => trivial
  | number n => exact onward n all
  | array items => exact AllItems.imp all onward
  | object members => exact AllMembers.imp all onward

theorem AllItems.imp {items : List Json} (all : AllItems p items) (onward : ∀ n, p n → q n) :
    AllItems q items := by
  cases items with
  | nil => trivial
  | cons item items => exact ⟨AllNumbers.imp all.1 onward, AllItems.imp all.2 onward⟩

theorem AllMembers.imp {members : List (String × Json)} (all : AllMembers p members)
    (onward : ∀ n, p n → q n) : AllMembers q members := by
  cases members with
  | nil => trivial
  | cons member members => exact ⟨AllNumbers.imp all.1 onward, AllMembers.imp all.2 onward⟩

end

mutual

theorem AllNumbers.of_forall (every : ∀ n, p n) (v : Json) : v.AllNumbers p := by
  cases v with
  | null | bool | string => trivial
  | number n => exact every n
  | array items => exact AllItems.of_forall every items
  | object members => exact AllMembers.of_forall every members

theorem AllItems.of_forall (every : ∀ n, p n) (items : List Json) : AllItems p items := by
  cases items with
  | nil => trivial
  | cons item items => exact ⟨AllNumbers.of_forall every item, AllItems.of_forall every items⟩

theorem AllMembers.of_forall (every : ∀ n, p n) (members : List (String × Json)) :
    AllMembers p members := by
  cases members with
  | nil => trivial
  | cons member members =>
    exact ⟨AllNumbers.of_forall every member.2, AllMembers.of_forall every members⟩

end

end Numbers

section Maps
variable {f : JsonNumber → JsonNumber}

theorem mapItems_eq_map (items : List Json) : mapItems f items = items.map (mapNumbers f) := by
  induction items with
  | nil => rfl
  | cons item items ih => rw [mapItems, ih, List.map_cons]

mutual

theorem mapNumbers_of_fixed {v : Json} (fixed : v.AllNumbers fun n => f n = n) :
    v.mapNumbers f = v := by
  cases v with
  | null | bool | string => rfl
  | number n => exact congrArg Json.number fixed
  | array items => exact congrArg Json.array (mapItems_of_fixed fixed)
  | object members => exact congrArg Json.object (mapMembers_of_fixed fixed)

theorem mapItems_of_fixed {items : List Json} (fixed : AllItems (fun n => f n = n) items) :
    mapItems f items = items := by
  cases items with
  | nil => rfl
  | cons item items =>
    rw [mapItems, mapNumbers_of_fixed fixed.1, mapItems_of_fixed fixed.2]

theorem mapMembers_of_fixed {members : List (String × Json)}
    (fixed : AllMembers (fun n => f n = n) members) : mapMembers f members = members := by
  cases members with
  | nil => rfl
  | cons member members =>
    obtain ⟨key, value⟩ := member
    rw [mapMembers, mapNumbers_of_fixed fixed.1, mapMembers_of_fixed fixed.2]

end

end Maps

end Json

section Writing

private theorem number_of_read {tree : Json} {depth : Option Nat} {n : JsonNumber}
    (known : Raw.read depth (ofJson tree) = .ok (.number n)) : tree = .number n := by
  cases tree with
  | number m => exact congrArg Json.number (Json.number.inj (Except.ok.inj known))
  | array items =>
    obtain ⟨held, -, -, same⟩ := read_array known
    contradiction
  | object members =>
    obtain ⟨held, -, -, same⟩ := read_object known
    contradiction
  | _ => simp [ofJson, Raw.read] at known

private theorem nil_of_spaces {blank : List Char} (n : JsonNumber) (spaces : Spaces blank)
    (within : ∀ c ∈ blank, c ∈ Json.numberText n) : blank = [] := by
  cases blank with
  | nil => rfl
  | cons c blank =>
    have numeral := Json.isNumeral_of_mem_numberText n c (within c List.mem_cons_self)
    have space := spaces c List.mem_cons_self
    simp only [isSpace, Bool.or_eq_true, beq_iff_eq] at space
    rcases space with ((rfl | rfl) | rfl) | rfl <;> exact absurd numeral (by decide)

theorem written_number {n : JsonNumber} (readable : n.Readable) :
    Written (.value (.number n.reread)) (Json.numberText n) := by
  obtain ⟨lead, text, trail, tree, cut, before, written, after, known⟩ :=
    (parse_eq_ok_iff _ _).mp readable.parse
  rw [Json.compact, String.toList_ofList] at cut
  change Json.numberText n = _ at cut
  have noLead : lead = [] := nil_of_spaces n before fun c member => by
    rw [cut]
    exact List.mem_append_left _ member
  have noTrail : trail = [] := nil_of_spaces n after fun c member => by
    rw [cut]
    exact List.mem_append_right _ (List.mem_append_right _ member)
  rw [noLead, noTrail, List.nil_append, List.append_nil] at cut
  rw [cut]
  rwa [number_of_read known] at written

theorem parse_number {n m : JsonNumber}
    (written : Written (.value (.number m)) (Json.numberText n)) :
    Json.parse (Json.number n).compact = .ok (.number m) := by
  refine (parse_eq_ok_iff _ _).mpr
    ⟨[], Json.numberText n, [], .number m, ?_, nofun, written, nofun, rfl⟩
  rw [Json.compact, String.toList_ofList, List.append_nil]
  rfl

theorem parse_int {i : Int} (least : -2 ^ 63 ≤ i) (greatest : i < 2 ^ 64) :
    Json.parse (Json.number (.int i)).compact = .ok (.number (.int i)) :=
  parse_number (written_int least greatest)

theorem readable_int {i : Int} (least : -2 ^ 63 ≤ i) (greatest : i < 2 ^ 64) :
    (JsonNumber.int i).Readable := ⟨_, parse_int least greatest⟩

theorem reread_int {i : Int} (least : -2 ^ 63 ≤ i) (greatest : i < 2 ^ 64) :
    (JsonNumber.int i).reread = .int i := by
  rw [JsonNumber.reread, parse_int least greatest]

private theorem lead_none : Lead true [] := .first spaces_nil

private theorem lead_comma : Lead false [','] := .next spaces_nil spaces_nil

mutual

theorem written_print {v : Json} (readable : v.AllNumbers JsonNumber.Readable) :
    Written (.value v.reread) v.print := by
  cases v with
  | null => exact .null
  | bool b =>
    cases b with
    | true => exact .yes
    | false => exact .no
  | number n => exact written_number readable
  | string s => exact written_string s
  | array items =>
    cases items with
    | nil => exact .array (.noItem true spaces_nil)
    | cons item items =>
      have rest := written_printItems readable.2
      have all := Written.item lead_none (written_print readable.1) rest
      rw [List.nil_append, ← List.append_assoc] at all
      exact .array all
  | object members =>
    cases members with
    | nil => exact .object (.noMember true spaces_nil)
    | cons member members =>
      obtain ⟨key, value⟩ := member
      have rest := written_printMembers readable.2
      have all := Written.member lead_none (body_escaped key.toList) spaces_nil
        spaces_nil (written_print readable.1) rest
      rw [String.ofList_toList] at all
      have text : Json.print (.object ((key, value) :: members)) = '\x7b' ::
          ([] ++ '"' :: (key.toList.flatMap Json.escapeChar ++ ['"'] ++ ([] ++ ':' :: ([] ++
            (value.print ++ (Json.printMembers members ++ ['\x7d'])))))) := by
        simp [Json.print, Json.quoteText]
      rw [text]
      exact .object all

theorem written_printItems {items : List Json}
    (readable : Json.AllItems JsonNumber.Readable items) :
    Written (.items false (Json.mapItems JsonNumber.reread items))
      (Json.printItems items ++ [']']) := by
  cases items with
  | nil => exact .noItem false spaces_nil
  | cons item items =>
    have all := Written.item lead_comma (written_print readable.1) (written_printItems readable.2)
    have text : Json.printItems (item :: items) ++ [']'] =
        [','] ++ (item.print ++ (Json.printItems items ++ [']'])) := by
      simp [Json.printItems]
    rw [text]
    exact all

theorem written_printMembers {members : List (String × Json)}
    (readable : Json.AllMembers JsonNumber.Readable members) :
    Written (.members false (Json.mapMembers JsonNumber.reread members))
      (Json.printMembers members ++ ['\x7d']) := by
  cases members with
  | nil => exact .noMember false spaces_nil
  | cons member members =>
    obtain ⟨key, value⟩ := member
    have all := Written.member lead_comma (body_escaped key.toList) spaces_nil spaces_nil
      (written_print readable.1) (written_printMembers readable.2)
    rw [String.ofList_toList] at all
    have text : Json.printMembers ((key, value) :: members) ++ ['\x7d'] =
        [','] ++ '"' :: (key.toList.flatMap Json.escapeChar ++ ['"'] ++ ([] ++ ':' :: ([] ++
          (value.print ++ (Json.printMembers members ++ ['\x7d']))))) := by
      simp [Json.printMembers, Json.quoteText]
    rw [text]
    exact all

end

end Writing

section Reading

theorem ofText_compact {v : Json} (readable : v.AllNumbers JsonNumber.Readable) :
    ofText v.compact = ⟨ofJson v.reread, false⟩ := by
  have scanned : scan (3 * v.print.length + 3) v.print = (ofJson v.reread, some []) := by
    have found :=
      (written_print readable).scans (3 * v.print.length + 3) [] [] (by omega) nofun nofun
    rwa [List.nil_append, List.append_nil] at found
  rw [ofText, Json.compact, String.toList_ofList, scanned]
  rfl

private theorem increasing_mapMembers {f : JsonNumber → JsonNumber}
    {members : List (String × Json)} (increasing : Increasing members) :
    Increasing (Json.mapMembers f members) := by
  have keys : (Json.mapMembers f members).map (·.1) = members.map (·.1) := by
    clear increasing
    induction members with
    | nil => rfl
    | cons member members ih => rw [Json.mapMembers, List.map_cons, List.map_cons, ih]
  rwa [Increasing, keys]

private theorem room_within {depth : Option Nat} {n : Nat} (room : ∀ d ∈ depth, n + 1 ≤ d) :
    depth ≠ some 0 ∧ ∀ d ∈ depth.map (· - 1), n ≤ d := by
  cases depth with
  | none => exact ⟨nofun, nofun⟩
  | some d =>
    have above : n + 1 ≤ d := room d rfl
    refine ⟨fun zero => ?_, fun e same => ?_⟩
    · rw [Option.some.inj zero] at above
      exact absurd above (Nat.not_succ_le_zero n)
    · rw [← Option.some.inj same]
      exact Nat.le_sub_one_of_lt above

mutual

/-- A reader takes a value at hand as it is, whatever its numbers are. -/
theorem read_mapNumbers (f : JsonNumber → JsonNumber) {v : Json} (ordered : v.Ordered)
    {depth : Option Nat} (room : ∀ d ∈ depth, v.depth ≤ d) :
    Raw.read depth (ofJson (v.mapNumbers f)) = .ok (v.mapNumbers f) := by
  cases v with
  | null | bool | number | string => rfl
  | array items =>
    obtain ⟨deep, within⟩ := room_within room
    have inner := readItems_mapItems f ordered within
    simp [Json.mapNumbers, ofJson, Raw.read, deep, inner, bind, Except.bind]
  | object members =>
    obtain ⟨deep, within⟩ := room_within room
    have inner := readMembers_mapMembers f ordered.2 within
    simp [Json.mapNumbers, ofJson, Raw.read, deep, inner, bind, Except.bind,
      sortMembers_of_increasing (increasing_mapMembers ordered.1)]

theorem readItems_mapItems (f : JsonNumber → JsonNumber) {items : List Json}
    (ordered : Json.OrderedItems items) {depth : Option Nat}
    (room : ∀ d ∈ depth, Json.depthOfItems items ≤ d) :
    readItems depth (ofItems (Json.mapItems f items)) = .ok (Json.mapItems f items) := by
  cases items with
  | nil => rfl
  | cons item items =>
    have first := read_mapNumbers f ordered.1 fun d given => (Nat.max_le.mp (room d given)).1
    have others := readItems_mapItems f ordered.2 fun d given => (Nat.max_le.mp (room d given)).2
    simp [Json.mapItems, ofItems, readItems, first, others, bind, Except.bind]

theorem readMembers_mapMembers (f : JsonNumber → JsonNumber) {members : List (String × Json)}
    (ordered : Json.OrderedMembers members) {depth : Option Nat}
    (room : ∀ d ∈ depth, Json.depthOfMembers members ≤ d) :
    readMembers depth (ofMembers (Json.mapMembers f members)) =
      .ok (Json.mapMembers f members) := by
  cases members with
  | nil => rfl
  | cons member members =>
    have first := read_mapNumbers f ordered.1 fun d given => (Nat.max_le.mp (room d given)).1
    have others :=
      readMembers_mapMembers f ordered.2 fun d given => (Nat.max_le.mp (room d given)).2
    simp [Json.mapMembers, ofMembers, readMembers, first, others, bind, Except.bind]

end

theorem read_ofJson {v : Json} (ordered : v.Ordered) : Raw.read none (ofJson v) = .ok v := by
  have same : v.mapNumbers id = v :=
    Json.mapNumbers_of_fixed (Json.AllNumbers.of_forall (fun _ => rfl) v)
  have read : Raw.read none (ofJson (v.mapNumbers id)) = .ok (v.mapNumbers id) :=
    read_mapNumbers id ordered nofun
  rwa [same] at read

theorem parse_compact {v : Json} (legible : v.Legible) : Json.parse v.compact = .ok v.reread := by
  have held : Raw.read (some maxDepth) (ofJson v.reread) = .ok v.reread :=
    read_mapNumbers JsonNumber.reread legible.ordered fun _ given =>
      Option.some.inj given ▸ legible.shallow
  simp only [Json.parse, ofText_compact legible.readable, held, bind, Except.bind,
    Bool.false_eq_true, if_false]

end Reading

section Exactness

def JsonNumber.Integral : JsonNumber → Prop
  | .int i => -2 ^ 63 ≤ i ∧ i < 2 ^ 64
  | .float _ => False

theorem JsonNumber.Integral.readable {n : JsonNumber} (integral : n.Integral) : n.Readable := by
  cases n with
  | int i => exact readable_int integral.1 integral.2
  | float x => exact integral.elim

theorem JsonNumber.Integral.reread {n : JsonNumber} (integral : n.Integral) : n.reread = n := by
  cases n with
  | int i => exact reread_int integral.1 integral.2
  | float x => exact integral.elim

/-- A free-form value without doubles, not too deep to be read. -/
structure Json.Integral (v : Json) : Prop where
  numbers : v.AllNumbers JsonNumber.Integral
  ordered : v.Ordered
  shallow : v.depth ≤ Raw.maxDepth

theorem Json.Integral.parse {v : Json} (integral : v.Integral) :
    Json.parse v.compact = .ok v := by
  have legible : v.Legible :=
    ⟨integral.numbers.imp fun _ number => number.readable, integral.ordered, integral.shallow⟩
  have fixed : v.reread = v :=
    Json.mapNumbers_of_fixed (integral.numbers.imp fun _ number => number.reread)
  rw [parse_compact legible, fixed]

end Exactness

end PathAudit
