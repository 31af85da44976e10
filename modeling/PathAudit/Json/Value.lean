import PathAudit.Number.Decimal

/-! JSON values. Numbers keep their kind: an integer of 64 bits, signed or not, or a double.
Members of an object are a list; an object that stands for a free-form value lists its keys in
increasing order, each once, which `Json.object` brings about. -/
namespace PathAudit

inductive JsonNumber where
  | int (value : Int)
  | float (value : Double)
  deriving DecidableEq, Repr, Inhabited

inductive Json where
  | null
  | bool (value : Bool)
  | number (value : JsonNumber)
  | string (value : String)
  | array (items : List Json)
  | object (members : List (String × Json))
  deriving Repr, Inhabited

/-- Puts a member at its place in increasing key order; an equal key gives way. -/
def putMember {α : Type} (key : String) (value : α) : List (String × α) → List (String × α)
  | [] => [(key, value)]
  | (k, v) :: rest =>
    if key < k then (key, value) :: (k, v) :: rest
    else if key = k then (key, value) :: rest
    else (k, v) :: putMember key value rest

private theorem lookup_cons_ite {α : Type} (key k : String) (value : α)
    (rest : List (String × α)) :
    ((key, value) :: rest).lookup k = if k = key then some value else rest.lookup k := by
  by_cases same : k = key
  · simp [same]
  · rw [if_neg same, List.lookup_cons, beq_false_of_ne same]

theorem lookup_putMember {α : Type} (key k : String) (value : α) (members : List (String × α)) :
    (putMember key value members).lookup k = if k = key then some value else members.lookup k := by
  induction members with
  | nil => exact lookup_cons_ite key k value []
  | cons member rest ih =>
    obtain ⟨first, held⟩ := member
    unfold putMember
    split
    · rw [lookup_cons_ite]
    · split
      next same =>
        rw [lookup_cons_ite, lookup_cons_ite, same]
        split <;> rfl
      next other =>
        rw [lookup_cons_ite, lookup_cons_ite, ih]
        by_cases found : k = key
        · rw [if_neg (found ▸ other), if_pos found, if_pos found]
        · rw [if_neg found, if_neg found]

theorem mem_keys_putMember {α : Type} (key k : String) (value : α) (members : List (String × α)) :
    k ∈ (putMember key value members).map (·.1) ↔ k = key ∨ k ∈ members.map (·.1) := by
  induction members with
  | nil => simp [putMember]
  | cons member rest ih =>
    obtain ⟨first, held⟩ := member
    unfold putMember
    split
    · simp
    · split
      next same => simp [same]
      next => simp only [List.map_cons, List.mem_cons, ih, or_left_comm]

theorem mem_of_mem_putMember {α : Type} {key : String} {value : α} {members : List (String × α)}
    {member : String × α} (put : member ∈ putMember key value members) :
    member = (key, value) ∨ member ∈ members := by
  induction members with
  | nil => exact .inl (List.mem_singleton.mp put)
  | cons first rest ih =>
    unfold putMember at put
    split at put
    · exact List.mem_cons.mp put
    · split at put
      · exact (List.mem_cons.mp put).imp_right (List.mem_cons_of_mem _)
      · rcases List.mem_cons.mp put with rfl | later
        · exact .inr List.mem_cons_self
        · exact (ih later).imp_right (List.mem_cons_of_mem _)

theorem filter_putMember {α : Type} {key : String} (value : α) {members : List (String × α)}
    (absent : key ∉ members.map (·.1)) :
    (putMember key value members).filter (·.1 != key) = members := by
  induction members with
  | nil => simp [putMember]
  | cons member rest ih =>
    obtain ⟨first, held⟩ := member
    rw [List.map_cons, List.mem_cons, not_or] at absent
    obtain ⟨other, others⟩ := absent
    have kept : ((first, held) :: rest).filter (·.1 != key) = (first, held) :: rest := by
      refine List.filter_eq_self.mpr (List.forall_mem_cons.mpr ⟨?_, fun member inside => ?_⟩)
      · exact bne_iff_ne.mpr (Ne.symm other)
      · refine bne_iff_ne.mpr fun same => others ?_
        rw [← same]
        exact List.mem_map_of_mem inside
    unfold putMember
    split
    next => rw [List.filter_cons_of_neg (by simp), kept]
    next =>
      rw [List.filter_cons_of_pos (by simpa using Ne.symm other), ih others]

/-- Members in increasing key order, the last one of a repeated key. -/
def sortMembers {α : Type} (members : List (String × α)) : List (String × α) :=
  members.foldl (fun sorted (key, value) => putMember key value sorted) []

/-- Keys in increasing order, each once. -/
def Increasing {α : Type} (members : List (String × α)) : Prop :=
  (members.map (·.1)).Pairwise (· < ·)

theorem putMember_of_greatest {α : Type} (key : String) (value : α) {members : List (String × α)}
    (greatest : ∀ k ∈ members.map (·.1), k < key) :
    putMember key value members = members ++ [(key, value)] := by
  induction members with
  | nil => rfl
  | cons member rest ih =>
    obtain ⟨first, held⟩ := member
    have below : first < key := greatest first List.mem_cons_self
    have others : ∀ k ∈ rest.map (·.1), k < key := fun k member =>
      greatest k (List.mem_cons_of_mem _ member)
    have other : key ≠ first := fun same => String.lt_irrefl first (same ▸ below)
    rw [putMember, if_neg (String.lt_asymm below), if_neg other, ih others, List.cons_append]

theorem sortMembers_of_increasing {α : Type} {members : List (String × α)}
    (increasing : Increasing members) : sortMembers members = members := by
  have onward (sorted rest : List (String × α)) (increasing : Increasing (sorted ++ rest)) :
      rest.foldl (fun sorted (key, value) => putMember key value sorted) sorted =
        sorted ++ rest := by
    induction rest generalizing sorted with
    | nil => rw [List.foldl_nil, List.append_nil]
    | cons member rest ih =>
      have greatest : ∀ k ∈ sorted.map (·.1), k < member.1 := by
        rw [Increasing, List.map_append, List.pairwise_append] at increasing
        intro k early
        exact increasing.2.2 k early member.1 List.mem_cons_self
      have shifted : sorted ++ member :: rest = sorted ++ [member] ++ rest := by simp
      have put : putMember member.1 member.2 sorted = sorted ++ [member] :=
        putMember_of_greatest member.1 member.2 greatest
      rw [shifted] at increasing ⊢
      rw [← ih _ increasing, ← put]
      rfl
  exact onward [] members increasing

theorem increasing_putMember {α : Type} (key : String) (value : α) {members : List (String × α)}
    (increasing : Increasing members) : Increasing (putMember key value members) := by
  induction members with
  | nil => exact List.pairwise_singleton _ _
  | cons member rest ih =>
    obtain ⟨first, held⟩ := member
    obtain ⟨least, others⟩ := List.pairwise_cons.mp increasing
    unfold putMember
    split
    next below =>
      refine List.pairwise_cons.mpr ⟨fun k early => ?_, increasing⟩
      rcases List.mem_cons.mp early with rfl | later
      · exact below
      · exact String.lt_trans below (least k later)
    next notBelow =>
      split
      next same => exact List.pairwise_cons.mpr ⟨same ▸ least, others⟩
      next other =>
        have above : first < key := Decidable.byContradiction fun notAbove =>
          other (String.le_antisymm (String.not_lt.mp notAbove) (String.not_lt.mp notBelow))
        refine List.pairwise_cons.mpr ⟨fun k early => ?_, ih others⟩
        rcases (mem_keys_putMember key k value rest).mp early with rfl | later
        · exact above
        · exact least k later

theorem increasing_foldl_putMember {α : Type} (members : List (String × α))
    {held : List (String × α)} (increasing : Increasing held) :
    Increasing (members.foldl (fun held (key, value) => putMember key value held) held) := by
  induction members generalizing held with
  | nil => exact increasing
  | cons member rest ih => exact ih (increasing_putMember member.1 member.2 increasing)

theorem increasing_sortMembers {α : Type} (members : List (String × α)) :
    Increasing (sortMembers members) := increasing_foldl_putMember members .nil

theorem mem_keys_sortMembers {α : Type} (k : String) (members : List (String × α)) :
    k ∈ (sortMembers members).map (·.1) ↔ k ∈ members.map (·.1) := by
  have grown (sorted : List (String × α)) :
      k ∈ (members.foldl (fun sorted (key, value) => putMember key value sorted) sorted).map (·.1) ↔
        k ∈ members.map (·.1) ∨ k ∈ sorted.map (·.1) := by
    induction members generalizing sorted with
    | nil => simp
    | cons member rest ih =>
      rw [List.foldl_cons, ih, mem_keys_putMember, List.map_cons, List.mem_cons, or_left_comm,
        or_assoc]
  simpa [sortMembers] using grown []

theorem mem_of_mem_sortMembers {α : Type} {members : List (String × α)} {member : String × α}
    (sorted : member ∈ sortMembers members) : member ∈ members := by
  have onward (members held : List (String × α))
      (put : member ∈ members.foldl (fun sorted (key, value) => putMember key value sorted) held) :
      member ∈ members ∨ member ∈ held := by
    induction members generalizing held with
    | nil => exact .inr put
    | cons first rest ih =>
      rcases ih _ put with later | early
      · exact .inl (List.mem_cons_of_mem _ later)
      · rcases mem_of_mem_putMember early with rfl | held
        · exact .inl List.mem_cons_self
        · exact .inr held
  exact (onward members [] sorted).resolve_right List.not_mem_nil

theorem lookup_of_mem {α : Type} {members : List (String × α)}
    (distinct : (members.map (·.1)).Nodup) {key : String} {value : α}
    (member : (key, value) ∈ members) : members.lookup key = some value := by
  induction members with
  | nil => contradiction
  | cons first rest ih =>
    obtain ⟨k, v⟩ := first
    obtain ⟨absent, others⟩ := List.nodup_cons.mp distinct
    rcases List.mem_cons.mp member with same | later
    · cases same
      simp
    · have apart : key ≠ k := by
        rintro rfl
        exact absent (List.mem_map.mpr ⟨_, later, rfl⟩)
      rw [List.lookup_cons, beq_false_of_ne apart]
      exact ih others later

theorem lookup_of_least {α : Type} {key : String} {members : List (String × α)}
    (least : ∀ k ∈ members.map (·.1), key < k) : members.lookup key = none := by
  refine List.lookup_eq_none_iff.mpr fun member held => bne_iff_ne.mpr ?_
  exact String.ne_of_lt (least member.1 (List.mem_map_of_mem held))

theorem Increasing.lookup_before {α : Type} {key first : String} {value : α}
    {members : List (String × α)} (increasing : Increasing ((first, value) :: members))
    (before : key < first) : ((first, value) :: members).lookup key = none := by
  refine lookup_of_least (List.forall_mem_cons.mpr ⟨before, fun k later => ?_⟩)
  exact String.lt_trans before ((List.pairwise_cons.mp increasing).1 k later)

theorem Increasing.ext {α : Type} {left right : List (String × α)} (increasing : Increasing left)
    (others : Increasing right) (same : ∀ key, left.lookup key = right.lookup key) :
    left = right := by
  induction left generalizing right with
  | nil =>
    cases right with
    | nil => rfl
    | cons second right =>
      have there := same second.1
      rw [List.lookup_cons, beq_self_eq_true] at there
      contradiction
  | cons first left ih =>
    obtain ⟨key, value⟩ := first
    cases right with
    | nil => simpa [List.lookup_cons] using same key
    | cons second right =>
      obtain ⟨k, held⟩ := second
      have here := same key
      have there := same k
      obtain rfl : key = k := by
        refine String.le_antisymm (String.not_lt.mp fun before => ?_)
          (String.not_lt.mp fun before => ?_)
        · rw [increasing.lookup_before before] at there
          simp at there
        · rw [others.lookup_before before] at here
          simp at here
      obtain rfl : value = held := by simpa using here
      obtain ⟨least, increasing⟩ := List.pairwise_cons.mp increasing
      obtain ⟨least', rest⟩ := List.pairwise_cons.mp others
      refine congrArg ((key, value) :: ·) (ih increasing rest fun k => ?_)
      by_cases found : k = key
      · rw [found, lookup_of_least least, lookup_of_least least']
      · simpa [List.lookup_cons, beq_false_of_ne found] using same k

/-- The members put in come before those held, the last of them first. -/
theorem lookup_foldl_putMember {α : Type} (key : String) (members held : List (String × α)) :
    (members.foldl (fun held (key, value) => putMember key value held) held).lookup key =
      (members.reverse ++ held).lookup key := by
  induction members generalizing held with
  | nil => rfl
  | cons member members ih =>
    rw [List.foldl_cons, ih, List.lookup_append, lookup_putMember, ← lookup_cons_ite,
      ← List.lookup_append, List.reverse_cons, List.append_assoc, List.singleton_append]

theorem lookup_sortMembers {α : Type} (key : String) (members : List (String × α)) :
    (sortMembers members).lookup key = members.reverse.lookup key := by
  rw [sortMembers, lookup_foldl_putMember, List.append_nil]

namespace Json

def ofMembers (members : List (String × Json)) : Json := .object (sortMembers members)

def nat (n : Nat) : Json := .number (.int n)

def int (i : Int) : Json := .number (.int i)

def float (x : Double) : Json := .number (.float x)

def strings (texts : List String) : Json := .array (texts.map .string)

def orNull {α : Type} (encode : α → Json) : Option α → Json
  | none => .null
  | some a => encode a

def get? (key : String) : Json → Option Json
  | .object members => members.lookup key
  | _ => none

def asString? : Json → Option String
  | .string s => some s
  | _ => none

def asArray? : Json → Option (List Json)
  | .array items => some items
  | _ => none

def asBool? : Json → Option Bool
  | .bool b => some b
  | _ => none

def asObject? : Json → Option (List (String × Json))
  | .object members => some members
  | _ => none

def asNat? : Json → Option Nat
  | .number (.int i) => if 0 ≤ i then some i.toNat else none
  | _ => none

def asDouble? : Json → Option Double
  | .number (.int i) => some (.ofInt i)
  | .number (.float x) => some x
  | _ => none

def isNull : Json → Bool
  | .null => true
  | _ => false

mutual

def same : Json → Json → Bool
  | .null, .null => true
  | .bool a, .bool b => a == b
  | .number a, .number b => a == b
  | .string a, .string b => a == b
  | .array a, .array b => sameItems a b
  | .object a, .object b => sameMembers a b
  | _, _ => false

def sameItems : List Json → List Json → Bool
  | [], [] => true
  | a :: as, b :: bs => same a b && sameItems as bs
  | _, _ => false

def sameMembers : List (String × Json) → List (String × Json) → Bool
  | [], [] => true
  | (k, a) :: as, (l, b) :: bs => k == l && same a b && sameMembers as bs
  | _, _ => false

end

instance : BEq Json := ⟨same⟩

end Json

end PathAudit
