import PathAudit.Json.Raw

/-! Typed values out of documents. A decoder looks at a document in the order it is written, so the
first thing wrong is what it reports, whether a break of the grammar or a wrong shape. A structure
is written as an object, or as an array of its fields in the order of their declaration. -/
namespace PathAudit

/-- Where a document came from, which decides how surplus elements of an array are reported. -/
inductive Origin where
  | text
  | value
  | buffer
  deriving DecidableEq, Repr, Inhabited

abbrev Decoder (α : Type) := Origin → Raw → Except DecodeError α

namespace Decoder

def mismatch {α : Type} (wanted : String) : Raw → Except DecodeError α
  | .null => .error (.invalidType .null wanted)
  | .bool b => .error (.invalidType (.bool b) wanted)
  | .number n => .error (.invalidType (.number n) wanted)
  | .string s => .error (.invalidType (.string s) wanted)
  | .array _ _ => .error (.invalidType .sequence wanted)
  | .object _ _ => .error (.invalidType .map wanted)
  | .unreadable fault => .error (.fault fault)
  | .broken reading _ => .error (.fault reading)

def text : Decoder String := fun _ raw =>
  match raw with
  | .string s => .ok s
  | raw => mismatch "a string" raw

def path : Decoder String := fun _ raw =>
  match raw with
  | .string s => .ok s
  | raw => mismatch "path string" raw

def bool : Decoder Bool := fun _ raw =>
  match raw with
  | .bool b => .ok b
  | raw => mismatch "a boolean" raw

def integer (name : String) (least greatest : Int) : Decoder Int := fun _ raw =>
  match raw with
  | .number (.int i) =>
    if least ≤ i ∧ i ≤ greatest then .ok i
    else .error (.invalidValue (.number (.int i)) name)
  | raw => mismatch name raw

def natural (name : String) (bits : Nat) : Decoder Nat := fun origin raw =>
  (integer name 0 (Nat.pow 2 bits - 1 : Nat) origin raw).map Int.toNat

def u32 : Decoder Nat := natural "u32" 32

def u64 : Decoder Nat := natural "u64" 64

def usize : Decoder Nat := natural "usize" 64

def i64 : Decoder Int := integer "i64" (-(Nat.pow 2 63 : Nat)) (Nat.pow 2 63 - 1 : Nat)

/-- A number of 32 bits, as a double; `none` when it lies beyond their range. -/
def single : Decoder (Option Double) := fun _ raw =>
  match raw with
  | .number (.int i) => .ok (Double.roundSingle (decide (i < 0)) i.natAbs 1)
  | .number (.float x) => .ok x.throughSingle
  | raw => mismatch "f32" raw

/-- A free-form value, nested as deep as it may be. -/
def free : Decoder Json := fun _ raw => (raw.read none).mapError .fault

def option {α : Type} (decoder : Decoder α) : Decoder (Option α) := fun origin raw =>
  match raw with
  | .null => .ok none
  | raw => (decoder origin raw).map some

def each {α : Type} (decoder : Decoder α) (origin : Origin) :
    List Raw → Except DecodeError (List α)
  | [] => .ok []
  | item :: items => do
    let a ← decoder origin item
    let as ← each decoder origin items
    .ok (a :: as)

def list {α : Type} (decoder : Decoder α) : Decoder (List α) := fun origin raw =>
  match raw with
  | .array items ending => do
    let as ← each decoder origin items
    match ending with
    | .closed => .ok as
    | .broken reading _ _ => .error (.fault reading)
  | raw => mismatch "a sequence" raw

def entries {κ α : Type} (key : String → Except DecodeError κ) (decoder : Decoder α)
    (origin : Origin) : List (Except JsonFault String × Raw) → Except DecodeError (List (κ × α))
  | [] => .ok []
  | (name, value) :: rest => do
    let name ← name.mapError .fault
    let k ← key name
    let a ← decoder origin value
    let more ← entries key decoder origin rest
    .ok ((k, a) :: more)

/-- The entries of an object in the order they are written. -/
def map {κ α : Type} (key : String → Except DecodeError κ) (decoder : Decoder α) :
    Decoder (List (κ × α)) := fun origin raw =>
  match raw with
  | .object members ending => do
    let found ← entries key decoder origin members
    match ending with
    | .closed => .ok found
    | .broken reading _ => .error (.fault reading)
  | raw => mismatch "a map" raw

def variant {α : Type} (allowed : List String) (ofName? : String → Option α) (name : String) :
    Except DecodeError α :=
  match ofName? name with
  | some a => .ok a
  | none => .error (.unknownVariant name allowed)

/-- A variant without data, written as its name, or as an object from the name to `null`; in a
buffered document an empty object will do as well. -/
def unitVariant {α : Type} (allowed : List String) (ofName? : String → Option α) : Decoder α :=
  fun origin raw =>
  match raw with
  | .string name => variant allowed ofName? name
  | .object [(.ok name, value)] _ => do
    let a ← variant allowed ofName? name
    match origin, value with
    | _, .null => .ok a
    | .buffer, .object [] .closed => .ok a
    | _, value => mismatch "unit" value
  | .object _ _ => .error (.invalidValue .map "map with a single key")
  | raw => mismatch "string or map" raw

/-- A field of a structure: the name it is reported under, the other names it may have, and
whether an array may end before it. -/
structure Field where
  name : String
  aliases : List String := []
  defaulted : Bool := false

def Field.named (f : Field) (name : String) : Bool := f.name == name || f.aliases.contains name

abbrev Fill (σ : Type) := Origin → String → Raw → σ → Except DecodeError σ

def fillMembers {σ : Type} (fields : List Field) (fill : Fill σ) (origin : Origin) :
    List String → List (Except JsonFault String × Raw) → σ → Except DecodeError σ
  | _, [], state => .ok state
  | seen, (name, value) :: rest, state => do
    let name ← name.mapError .fault
    match fields.find? (·.named name) with
    | none => do
      value.skip.mapError .fault
      fillMembers fields fill origin seen rest state
    | some field =>
      if seen.contains field.name then .error (.duplicateField field.name)
      else do
        let state ← fill origin field.name value state
        fillMembers fields fill origin (field.name :: seen) rest state

private def surplus (origin : Origin) (read : Nat) (rest : List Raw) (ending : ListEnd) :
    Except DecodeError Unit :=
  match origin, rest, ending with
  | .text, [], .closed => .ok ()
  | .text, [], .broken _ _ satisfied => .error (.fault satisfied)
  | .text, _ :: _, _ => .error (.fault .trailingCharacters)
  | _, [], _ => .ok ()
  | .value, rest, _ => .error (.invalidLength (read + rest.length) "fewer elements in array")
  | .buffer, rest, _ =>
    .error (.invalidLength (read + rest.length)
      (if read = 1 then "1 element in sequence" else decimal read ++ " elements in sequence"))

private def fillItems {σ : Type} (wanted : String) (fill : Fill σ) (origin : Origin)
    (ending : ListEnd) : Nat → List Field → List Raw → σ → Except DecodeError σ
  | read, [], rest, state => do
    surplus origin read rest ending
    .ok state
  | read, field :: fields, [], state =>
    match ending with
    | .broken reading _ _ => .error (.fault reading)
    | .closed =>
      if field.defaulted then fillItems wanted fill origin ending read fields [] state
      else .error (.invalidLength read wanted)
  | read, field :: fields, item :: items, state => do
    let state ← fill origin field.name item state
    fillItems wanted fill origin ending (read + 1) fields items state

private def elements (n : Nat) : String :=
  if n = 1 then "1 element" else decimal n ++ " elements"

/-- A structure called `wanted`, filled field by field in the order of the document and completed
by `finish`, which reports what an object left out. -/
def fields {σ α : Type} (wanted : String) (fields : List Field) (empty : σ) (fill : Fill σ)
    (finish : σ → Except DecodeError α) : Decoder α := fun origin raw =>
  match raw with
  | .object members ending => do
    let state ← fillMembers fields fill origin [] members empty
    match ending with
    | .closed => finish state
    | .broken reading _ => .error (.fault reading)
  | .array items ending => do
    let described := wanted ++ " with " ++ elements fields.length
    let state ← fillItems described fill origin ending 0 fields items empty
    finish state
  | raw => mismatch wanted raw

def objectOnly {α : Type} (wanted : String) (decoder : Decoder α) : Decoder α := fun origin raw =>
  match raw with
  | .array items ending => mismatch wanted (.array items ending)
  | raw => decoder origin raw

def require {α : Type} (name : String) : Option α → Except DecodeError α
  | some a => .ok a
  | none => .error (.missingField name)

/-- Splits off the member that names the variant of a tagged value; the rest is decoded from a
buffer. -/
def tagged {α : Type} (wanted tag : String) (allowed : List String)
    (decode : String → Option (Decoder α)) : Decoder α := fun _ raw =>
  let pick (name : Raw) (rest : Raw) : Except DecodeError α :=
    match name with
    | .string name =>
      match decode name with
      | some decoder => decoder .buffer rest
      | none => .error (.unknownVariant name allowed)
    | name => mismatch "variant identifier" name
  let isTag : Except JsonFault String × Raw → Bool
    | (.ok key, _) => key == tag
    | _ => false
  match raw with
  | .object members ending =>
    match members.find? isTag with
    | some (_, name) => pick name (.object (members.filter (!isTag ·)) ending)
    | none => .error (.missingField tag)
  | .array (name :: rest) ending => pick name (.array rest ending)
  | .array [] _ => .error (.missingField tag)
  | raw => mismatch wanted raw

def ofText {α : Type} (decoder : Decoder α) (s : String) : Except DecodeError α := do
  let document := Raw.ofText s
  let a ← decoder .text document.root
  if document.trailing then .error (.fault .trailingCharacters) else .ok a

def ofJson {α : Type} (decoder : Decoder α) (v : Json) : Except DecodeError α :=
  decoder .value (Raw.ofJson v)

theorem list_ofJson {α : Type} {decoder : Decoder α} {encode : α → Json} {origin : Origin}
    {items : List α}
    (reads : ∀ a ∈ items, decoder origin (.ofJson (encode a)) = .ok a) :
    list decoder origin (.ofJson (.array (items.map encode))) = .ok items := by
  have every : each decoder origin (Raw.ofItems (items.map encode)) = .ok items := by
    induction items with
    | nil => rfl
    | cons a items ih =>
      have first := reads a List.mem_cons_self
      have rest := ih fun other member => reads other (List.mem_cons_of_mem _ member)
      simp only [List.map_cons, Raw.ofItems, each, first, rest, bind, Except.bind]
  simp only [Raw.ofJson, list, every, bind, Except.bind]

theorem map_ofJson {ι κ α : Type} {key : String → Except DecodeError κ} {decoder : Decoder α}
    {name : ι → String} {encode : ι → Json} {origin : Origin} {items : List ι} (read : ι → κ × α)
    (names : ∀ i ∈ items, key (name i) = .ok (read i).1)
    (values : ∀ i ∈ items, decoder origin (.ofJson (encode i)) = .ok (read i).2) :
    map key decoder origin (.ofJson (.object (items.map fun i => (name i, encode i)))) =
      .ok (items.map read) := by
  have every : entries key decoder origin
      (Raw.ofMembers (items.map fun i => (name i, encode i))) = .ok (items.map read) := by
    induction items with
    | nil => rfl
    | cons i items ih =>
      have known := names i List.mem_cons_self
      have first := values i List.mem_cons_self
      have rest := ih (fun other member => names other (List.mem_cons_of_mem _ member))
        fun other member => values other (List.mem_cons_of_mem _ member)
      simp only [List.map_cons, Raw.ofMembers, entries, mapError_ok, known, first, rest, bind,
        Except.bind]
  simp only [Raw.ofJson, map, every, bind, Except.bind]

section Tags
variable {tag : String} {isTag : Except JsonFault String × Raw → Bool}
  (tags : ∀ key value, isTag (.ok key, value) = (key == tag)) {members : List (String × Json)}
include tags

private theorem find?_ofMembers {v : Json} (found : members.lookup tag = some v) :
    (Raw.ofMembers members).find? isTag = some (.ok tag, .ofJson v) := by
  induction members with
  | nil => contradiction
  | cons member members ih =>
    obtain ⟨key, value⟩ := member
    rw [Raw.ofMembers, List.find?_cons, tags]
    by_cases same : key = tag
    · subst same
      rw [List.lookup_cons, beq_self_eq_true] at found
      rw [beq_self_eq_true, Option.some.inj found]
    · rw [List.lookup_cons, beq_false_of_ne (Ne.symm same)] at found
      rw [beq_false_of_ne same]
      exact ih found

private theorem filter_ofMembers :
    (Raw.ofMembers members).filter (!isTag ·) = Raw.ofMembers (members.filter (·.1 != tag)) := by
  induction members with
  | nil => rfl
  | cons member members ih =>
    obtain ⟨key, value⟩ := member
    rw [Raw.ofMembers, List.filter_cons, List.filter_cons, tags, ih, bne]
    cases key == tag <;> rfl

end Tags

/-- The tag picks the decoder, wherever it stands, and the decoder sees the other members. -/
theorem tagged_ofJson {α : Type} {wanted tag name : String} {allowed : List String}
    {decode : String → Option (Decoder α)} {decoder : Decoder α} {origin : Origin}
    {members : List (String × Json)} (found : members.lookup tag = some (.string name))
    (known : decode name = some decoder) :
    tagged wanted tag allowed decode origin (.ofJson (.object members)) =
      decoder .buffer (.ofJson (.object (members.filter (·.1 != tag)))) := by
  let isTag : Except JsonFault String × Raw → Bool
    | (.ok key, _) => key == tag
    | _ => false
  have tags : ∀ key value, isTag (.ok key, value) = (key == tag) := fun _ _ => rfl
  have first := find?_ofMembers tags found
  have others : (Raw.ofMembers members).filter (!isTag ·) =
      Raw.ofMembers (members.filter (·.1 != tag)) := filter_ofMembers tags
  simp only [isTag] at first others
  simp only [tagged, Raw.ofJson, first, others, known]

section Invariants
variable {σ α : Type} {p : σ → Prop} {fill : Fill σ} {origin : Origin}
  (keeps : ∀ name raw state next, fill origin name raw state = .ok next → p state → p next)
include keeps

private theorem fillMembers_keeps {fields : List Field} {seen : List String}
    {members : List (Except JsonFault String × Raw)} {state last : σ}
    (filled : fillMembers fields fill origin seen members state = .ok last) (held : p state) :
    p last := by
  induction members generalizing seen state with
  | nil => exact Except.ok.inj filled ▸ held
  | cons member members ih =>
    obtain ⟨given, value⟩ := member
    obtain ⟨name, -, filled⟩ := bind_eq_ok filled
    split at filled
    next =>
      obtain ⟨_, -, rest⟩ := bind_eq_ok filled
      exact ih rest held
    next field _ =>
      split at filled
      next => contradiction
      next =>
        obtain ⟨next, one, rest⟩ := bind_eq_ok filled
        exact ih rest (keeps _ _ _ _ one held)

private theorem fillItems_keeps {wanted : String} {ending : ListEnd} {read : Nat}
    {fields : List Field} {items : List Raw} {state last : σ}
    (filled : fillItems wanted fill origin ending read fields items state = .ok last)
    (held : p state) : p last := by
  induction fields generalizing read items state with
  | nil =>
    obtain ⟨_, -, same⟩ := bind_eq_ok filled
    exact Except.ok.inj same ▸ held
  | cons field fields ih =>
    cases items with
    | nil =>
      cases ending with
      | broken reading skipping satisfied => contradiction
      | closed =>
        simp only [fillItems] at filled
        split at filled
        next => exact ih filled held
        next => contradiction
    | cons item items =>
      obtain ⟨next, one, rest⟩ := bind_eq_ok filled
      exact ih rest (keeps _ _ _ _ one held)

theorem exists_of_fields {wanted : String} {fields : List Field} {empty : σ}
    {finish : σ → Except DecodeError α} {raw : Raw} {a : α} (start : p empty)
    (decoded : Decoder.fields wanted fields empty fill finish origin raw = .ok a) :
    ∃ state, p state ∧ finish state = .ok a := by
  cases raw with
  | object members ending =>
    obtain ⟨state, filled, decoded⟩ := bind_eq_ok decoded
    cases ending with
    | closed => exact ⟨state, fillMembers_keeps keeps filled start, decoded⟩
    | broken reading skipping => contradiction
  | array items ending =>
    obtain ⟨state, filled, decoded⟩ := bind_eq_ok decoded
    exact ⟨state, fillItems_keeps keeps filled start, decoded⟩
  | _ => contradiction

end Invariants

end Decoder

end PathAudit
