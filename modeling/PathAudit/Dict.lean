import PathAudit.Json.Decode

/-! Dictionaries with texts as keys, listed in increasing key order. -/
namespace PathAudit

/-- Entries in increasing key order, each key once: every dictionary is made from `empty` by
`insert`. -/
structure Dict (α : Type) where
  entries : List (String × α)
  deriving Repr

namespace Dict

variable {α : Type}

def empty : Dict α := ⟨[]⟩

instance : Inhabited (Dict α) := ⟨empty⟩

instance [DecidableEq α] : DecidableEq (Dict α) := fun a b =>
  if same : a.entries = b.entries then .isTrue (by cases a; cases b; simpa using same)
  else .isFalse fun equal => same (equal ▸ rfl)

def insert (key : String) (value : α) (d : Dict α) : Dict α := ⟨putMember key value d.entries⟩

def get? (d : Dict α) (key : String) : Option α := d.entries.lookup key

@[simp]
theorem get?_insert (d : Dict α) (key k : String) (value : α) :
    (d.insert key value).get? k = if k = key then some value else d.get? k :=
  lookup_putMember key k value d.entries

def keys (d : Dict α) : List String := d.entries.map (·.1)

def size (d : Dict α) : Nat := d.entries.length

def isEmpty (d : Dict α) : Bool := d.entries.isEmpty

/-- The last value of a repeated key counts. -/
def ofList (entries : List (String × α)) : Dict α :=
  entries.foldl (fun d (key, value) => d.insert key value) empty

def toJson (encode : α → Json) (d : Dict α) : Json :=
  .object (d.entries.map fun (key, value) => (key, encode value))

def decoder (value : Decoder α) : Decoder (Dict α) := fun origin raw =>
  (Decoder.map .ok value origin raw).map ofList

theorem ofList_eq (entries : List (String × α)) : ofList entries = ⟨sortMembers entries⟩ := by
  have onward (held : Dict α) :
      entries.foldl (fun d (key, value) => d.insert key value) held =
        ⟨entries.foldl (fun sorted (key, value) => putMember key value sorted) held.entries⟩ := by
    induction entries generalizing held with
    | nil => rfl
    | cons entry entries ih => exact ih (held.insert entry.1 entry.2)
  exact onward empty

theorem ofList_entries {d : Dict α} (sorted : Increasing d.entries) : ofList d.entries = d := by
  rw [ofList_eq, sortMembers_of_increasing sorted]

theorem decoder_toJson {value : Decoder α} {encode : α → Json} {origin : Origin} {d : Dict α}
    (sorted : Increasing d.entries)
    (reads : ∀ entry ∈ d.entries, value origin (.ofJson (encode entry.2)) = .ok entry.2) :
    decoder value origin (.ofJson (d.toJson encode)) = .ok d := by
  have found : Decoder.map .ok value origin (.ofJson (d.toJson encode)) =
      .ok (d.entries.map id) :=
    Decoder.map_ofJson id (fun _ _ => rfl) reads
  rw [decoder, found, List.map_id, Except.map, ofList_entries sorted]

theorem increasing_insert {d : Dict α} (sorted : Increasing d.entries) (key : String) (value : α) :
    Increasing (d.insert key value).entries := increasing_putMember key value sorted

theorem increasing_ofList (entries : List (String × α)) : Increasing (ofList entries).entries := by
  rw [ofList_eq]
  exact increasing_sortMembers entries

theorem increasing_of_decoder {value : Decoder α} {origin : Origin} {raw : Raw} {d : Dict α}
    (decoded : decoder value origin raw = .ok d) : Increasing d.entries := by
  unfold decoder at decoded
  cases read : Decoder.map .ok value origin raw with
  | error e => rw [read] at decoded; contradiction
  | ok entries =>
    rw [read] at decoded
    exact Except.ok.inj decoded ▸ increasing_ofList entries

end Dict

end PathAudit
