import PathAudit.Proofs.Store.Views

/-! Taking in records from outside. An import adds one revision, with its sink described, to each
key that it brings and whose record has no conclusion yet; a key with a conclusion it leaves alone,
and a key it does not bring as well. The keys of an import are distinct, so that each entry finds
the store as the whole import found it. -/
namespace PathAudit

namespace Sinks

theorem describe?_isSome_iff (sink : FunctionId) :
    (describe? sink).isSome = true ↔ sink ∈ names := by
  rw [describe?, names, List.mem_map, ← not_iff_not, Bool.not_eq_true, Option.isSome_eq_false_iff,
    Option.isNone_iff_eq_none, List.lookup_eq_none_iff]
  constructor
  · rintro apart ⟨known, listed, rfl⟩
    simpa using apart known listed
  · intro unknown known listed
    refine bne_iff_ne.mpr ?_
    rintro rfl
    exact unknown ⟨known, listed, rfl⟩

theorem missing?_isSome_iff (r : PathRecord) :
    (missing? r).isSome = true ↔ r.annotations.hasAny r.sink = false ∧ r.sink ∈ names := by
  unfold missing?
  cases r.annotations.hasAny r.sink with
  | true => simp
  | false => simpa using describe?_isSome_iff r.sink

end Sinks

namespace Ledger

section Additions
variable {news : Ledger} (l : Ledger) {key : String}

theorem lookup_append_of_not_mem (absent : key ∉ news.map (·.1)) :
    List.lookup key (news ++ l) = l.lookup key := by
  have none : news.lookup key = none := by
    refine List.lookup_eq_none_iff.mpr fun entry member => bne_iff_ne.mpr ?_
    rintro rfl
    exact absent (List.mem_map_of_mem member)
  rw [List.lookup_append, none, Option.none_or]

theorem lookup_append_of_mem (distinct : (news.map (·.1)).Nodup) {r : PathRecord}
    (member : (key, r) ∈ news) : List.lookup key (news ++ l) = some r := by
  rw [List.lookup_append, lookup_of_mem distinct member, Option.some_or]

theorem revisions_append_of_not_mem (absent : key ∉ news.map (·.1)) :
    revisions (news ++ l) key = l.revisions key := by
  have none : news.countP (fun entry => entry.1 = key) = 0 := by
    refine List.countP_eq_zero.mpr fun entry member same => absent ?_
    rw [← of_decide_eq_true same]
    exact List.mem_map_of_mem member
  rw [revisions, List.countP_append, none, Nat.zero_add, revisions]

theorem rowsOf_append_of_not_mem (absent : key ∉ news.map (·.1)) :
    rowsOf (news ++ l) key = l.rowsOf key := by
  induction news with
  | nil => rfl
  | cons entry news ih =>
    obtain ⟨k, x⟩ := entry
    have apart : key ≠ k := fun same => absent (same ▸ List.mem_cons_self)
    have others : key ∉ news.map (·.1) := fun later => absent (List.mem_cons_of_mem _ later)
    rw [List.cons_append, rowsOf_cons_of_ne _ x apart, ih others]

theorem rowsOf_append_of_mem (distinct : (news.map (·.1)).Nodup) {r : PathRecord}
    (member : (key, r) ∈ news) :
    rowsOf (news ++ l) key = l.rowsOf key ++ [row key (l.revisions key + 1) r] := by
  induction news with
  | nil => contradiction
  | cons entry news ih =>
    obtain ⟨k, x⟩ := entry
    obtain ⟨absent, others⟩ := List.nodup_cons.mp distinct
    rw [List.cons_append]
    rcases List.mem_cons.mp member with same | later
    · cases same
      rw [rowsOf_cons_self, rowsOf_append_of_not_mem l absent, revisions_append_of_not_mem l absent]
    · have apart : key ≠ k := by
        rintro rfl
        exact absent (List.mem_map.mpr ⟨_, later, rfl⟩)
      rw [rowsOf_cons_of_ne _ x apart, ih others later]

theorem rows_append (news l : Ledger) :
    ∃ added, rows (news ++ l) = l.rows ++ added ∧ added.length = news.length := by
  induction news with
  | nil => exact ⟨[], (List.append_nil _).symm, rfl⟩
  | cons entry news ih =>
    obtain ⟨added, grown, many⟩ := ih
    refine ⟨added ++ [row entry.1 (revisions (news ++ l) entry.1 + 1) entry.2], ?_, ?_⟩
    · rw [List.cons_append, rows, grown, List.append_assoc]
    · rw [List.length_append, many, List.length_singleton, List.length_cons]

end Additions

section Taking
variable (l : Ledger)

def isOpen (key : String) : Bool := !(l.lookup key).any (·.isConcluded)

def taken (entries : List (String × PathRecord)) : Ledger :=
  ((entries.filter fun entry => l.isOpen entry.1).map fun entry =>
    (entry.1, Sinks.seed entry.2)).reverse

def tally (entries : List (String × PathRecord)) : ImportSummary where
  imported := entries.countP fun entry => l.isOpen entry.1
  keptConcluded := entries.countP fun entry => !l.isOpen entry.1
  seededSinks := entries.countP fun entry => l.isOpen entry.1 && (Sinks.missing? entry.2).isSome

def HasRoom (entries : List (String × PathRecord)) : Prop :=
  ∀ entry ∈ entries, l.isOpen entry.1 = true → l.revisions entry.1 + 1 < 2 ^ 63

theorem mem_taken {entries : List (String × PathRecord)} {key : String} {r : PathRecord}
    (listed : (key, r) ∈ entries) (isOpen : l.isOpen key = true) :
    (key, Sinks.seed r) ∈ l.taken entries := by
  rw [taken, List.mem_reverse, List.mem_map]
  exact ⟨(key, r), List.mem_filter.mpr ⟨listed, isOpen⟩, rfl⟩

theorem mem_keys_taken (entries : List (String × PathRecord)) (key : String) :
    key ∈ (l.taken entries).map (·.1) ↔ key ∈ entries.map (·.1) ∧ l.isOpen key = true := by
  rw [taken, List.map_reverse, List.mem_reverse, List.map_map]
  simp only [List.mem_map, List.mem_filter, Function.comp_apply]
  constructor
  · rintro ⟨entry, ⟨listed, isOpen⟩, rfl⟩
    exact ⟨⟨entry, listed, rfl⟩, isOpen⟩
  · rintro ⟨⟨entry, listed, rfl⟩, isOpen⟩
    exact ⟨entry, ⟨listed, isOpen⟩, rfl⟩

theorem nodup_taken {entries : List (String × PathRecord)}
    (distinct : (entries.map (·.1)).Nodup) : ((l.taken entries).map (·.1)).Nodup := by
  rw [taken, List.map_reverse, List.nodup_reverse, List.map_map]
  exact distinct.sublist (List.filter_sublist.map _)

theorem length_taken (entries : List (String × PathRecord)) :
    (l.taken entries).length = (l.tally entries).imported := by
  rw [taken, List.length_reverse, List.length_map, tally, List.countP_eq_length_filter]

theorem length_tally (entries : List (String × PathRecord)) :
    (l.tally entries).imported + (l.tally entries).keptConcluded = entries.length := by
  rw [List.length_eq_countP_add_countP fun entry : String × PathRecord => l.isOpen entry.1]
  simp [tally]

end Taking

section Entry
variable {l : Ledger} {entry : String × PathRecord} {entries : List (String × PathRecord)}

theorem taken_cons (l : Ledger) (entry : String × PathRecord)
    (entries : List (String × PathRecord)) :
    l.taken (entry :: entries) = l.taken entries ++ l.taken [entry] := by
  unfold taken
  rw [← List.reverse_append, ← List.map_append, ← List.filter_append, List.singleton_append]

theorem apart_after (absent : entry.1 ∉ entries.map (·.1)) {other : String × PathRecord}
    (listed : other ∈ entries) : other.1 ∉ (l.taken [entry]).map (·.1) := by
  rw [mem_keys_taken, List.map_singleton, List.mem_singleton]
  rintro ⟨same, -⟩
  exact absent (List.mem_map.mpr ⟨other, listed, same⟩)

theorem isOpen_after (absent : entry.1 ∉ entries.map (·.1)) {other : String × PathRecord}
    (listed : other ∈ entries) : isOpen (l.taken [entry] ++ l) other.1 = l.isOpen other.1 := by
  rw [isOpen, isOpen, lookup_append_of_not_mem l (apart_after absent listed)]

theorem taken_after (absent : entry.1 ∉ entries.map (·.1)) :
    taken (l.taken [entry] ++ l) entries = l.taken entries := by
  have same : entries.filter (fun other => isOpen (l.taken [entry] ++ l) other.1) =
      entries.filter fun other => l.isOpen other.1 :=
    List.filter_congr fun other listed => isOpen_after absent listed
  rw [taken, same, taken]

theorem hasRoom_singleton :
    l.HasRoom [entry] ↔ (l.isOpen entry.1 = true → l.revisions entry.1 + 1 < 2 ^ 63) :=
  List.forall_mem_singleton

theorem hasRoom_cons : l.HasRoom (entry :: entries) ↔ l.HasRoom [entry] ∧ l.HasRoom entries := by
  rw [hasRoom_singleton, HasRoom, List.forall_mem_cons, HasRoom]

theorem hasRoom_after (absent : entry.1 ∉ entries.map (·.1)) :
    HasRoom (l.taken [entry] ++ l) entries ↔ l.HasRoom entries := by
  refine forall₂_congr fun other listed => ?_
  rw [isOpen_after absent listed, revisions_append_of_not_mem l (apart_after absent listed)]

theorem importRecord_eq_some_iff {next : Ledger} :
    l.importRecord entry = some next ↔ l.HasRoom [entry] ∧ next = l.taken [entry] ++ l := by
  rw [hasRoom_singleton, importRecord]
  cases status : (l.lookup entry.1).any (·.isConcluded) with
  | true =>
    have closed : l.isOpen entry.1 = false := by rw [isOpen, status]; rfl
    have nothing : l.taken [entry] = [] := by simp [taken, closed]
    rw [if_pos rfl, closed, nothing, List.nil_append, Option.some.injEq, eq_comm]
    simp
  | false =>
    have opened : l.isOpen entry.1 = true := by rw [isOpen, status]; rfl
    have one : l.taken [entry] = [(entry.1, Sinks.seed entry.2)] := by simp [taken, opened]
    rw [if_neg Bool.false_ne_true, opened, one, Ledger.save, Option.ite_none_right_eq_some,
      Option.some.injEq, eq_comm (b := next)]
    simp

/-- An import takes in all entries that are open to it, as one, or fails as a whole. -/
theorem importEntries_eq_some_iff (distinct : (entries.map (·.1)).Nodup) {next : Ledger} :
    entries.foldlM importRecord l = some next ↔
      l.HasRoom entries ∧ next = l.taken entries ++ l := by
  induction entries generalizing l with
  | nil => exact ⟨fun same => ⟨nofun, (Option.some.inj same).symm⟩, fun both => both.2 ▸ rfl⟩
  | cons entry entries ih =>
    obtain ⟨absent, others⟩ := List.nodup_cons.mp distinct
    rw [List.foldlM_cons, hasRoom_cons, taken_cons]
    constructor
    · intro imported
      obtain ⟨middle, first, rest⟩ := Option.bind_eq_some_iff.mp imported
      obtain ⟨room, rfl⟩ := importRecord_eq_some_iff.mp first
      obtain ⟨more, rfl⟩ := (ih others).mp rest
      refine ⟨⟨room, (hasRoom_after absent).mp more⟩, ?_⟩
      rw [taken_after absent, List.append_assoc]
    · rintro ⟨⟨room, more⟩, rfl⟩
      refine Option.bind_eq_some_iff.mpr ⟨_, importRecord_eq_some_iff.mpr ⟨room, rfl⟩, ?_⟩
      refine (ih others).mpr ⟨(hasRoom_after absent).mpr more, ?_⟩
      rw [taken_after absent, List.append_assoc]

end Entry

end Ledger

def ImportSummary.add (a b : ImportSummary) : ImportSummary :=
  ⟨a.imported + b.imported, a.keptConcluded + b.keptConcluded, a.seededSinks + b.seededSinks⟩

section Reports
variable {l : Ledger} {entry : String × PathRecord} {entries : List (String × PathRecord)}

theorem Ledger.add_tally_cons (told : ImportSummary) (absent : entry.1 ∉ entries.map (·.1)) :
    (told.add (l.tally [entry])).add (tally (l.taken [entry] ++ l) entries) =
      told.add (l.tally (entry :: entries)) := by
  have same : tally (l.taken [entry] ++ l) entries = l.tally entries := by
    unfold tally
    congr 1
    all_goals
      refine List.countP_congr fun other listed => ?_
      rw [isOpen_after absent listed]
  rw [same]
  simp only [ImportSummary.add, tally, List.countP_cons, List.countP_nil, ImportSummary.mk.injEq]
  omega

namespace Store
variable {s after : Store} {told summary : ImportSummary}

theorem Holds.importRecord_eq_ok (holds : s.Holds l)
    (imported : Store.importRecord (s, told) entry = .ok (after, summary)) :
    after.Holds (l.taken [entry] ++ l) ∧ summary = told.add (l.tally [entry]) := by
  have follows := holds.importRecord told entry
  rw [imported] at follows
  cases listed : l.importRecord entry with
  | none => rw [listed] at follows; contradiction
  | some next =>
    rw [listed] at follows
    obtain ⟨-, rfl⟩ := Ledger.importRecord_eq_some_iff.mp listed
    refine ⟨follows, ?_⟩
    obtain ⟨key, r⟩ := entry
    unfold Store.importRecord at imported
    dsimp only at imported
    rw [holds.isConcluded] at imported
    cases status : (l.lookup key).any (·.isConcluded) with
    | true =>
      have closed : l.isOpen key = false := by rw [Ledger.isOpen, status]; rfl
      rw [status] at imported
      cases imported
      simp [ImportSummary.add, Ledger.tally, closed]
    | false =>
      have opened : l.isOpen key = true := by rw [Ledger.isOpen, status]; rfl
      rw [status] at imported
      simp only [bind, Except.bind, Bool.false_eq_true, if_false] at imported
      split at imported
      · contradiction
      · cases imported
        simp [ImportSummary.add, Ledger.tally, opened, List.countP_cons]

theorem Holds.importEntries_eq_ok (holds : s.Holds l) (distinct : (entries.map (·.1)).Nodup)
    (imported : entries.foldlM Store.importRecord (s, told) = .ok (after, summary)) :
    after.Holds (l.taken entries ++ l) ∧ summary = told.add (l.tally entries) := by
  induction entries generalizing s l told with
  | nil =>
    cases imported
    exact ⟨holds, rfl⟩
  | cons entry entries ih =>
    obtain ⟨absent, others⟩ := List.nodup_cons.mp distinct
    rw [List.foldlM_cons] at imported
    cases first : Store.importRecord (s, told) entry with
    | error e => rw [first] at imported; contradiction
    | ok state =>
      obtain ⟨middle, reported⟩ := state
      rw [first] at imported
      obtain ⟨held, rfl⟩ := holds.importRecord_eq_ok first
      obtain ⟨last, rfl⟩ := ih held others imported
      rw [Ledger.taken_after absent, ← List.append_assoc, ← Ledger.taken_cons] at last
      exact ⟨last, Ledger.add_tally_cons told absent⟩

end Store

end Reports

namespace Store
variable {s : Store}

section Transactions

/-- The store as the statements of an import leave it and how they end; when one fails, what the
earlier ones wrote is still there. -/
def importWork :
    List (String × PathRecord) → Store × ImportSummary → Store × Except StoreError ImportSummary
  | [], (s, summary) => (s, .ok summary)
  | entry :: entries, (s, summary) =>
    match importRecord (s, summary) entry with
    | .ok next => importWork entries next
    | .error e => (s, .error e)

/-- Statements carried out as one: all of them are given up when one fails. -/
def transact {τ : Type} (s : Store) (work : Store → Store × Except StoreError τ) :
    Store × Except StoreError τ :=
  match work s with
  | (after, .ok a) => (after, .ok a)
  | (_, .error e) => (s, .error e)

def recordsIn (files : Files) (path : String) : Except StoreError (Dict PathRecord) := do
  let text ← (files.readText path).mapError fun fault =>
    .io ("read " ++ path ++ ": " ++ fault.message)
  ((Dict.decoder PathRecord.decoder).ofText text).mapError fun e => .serialization e.message

def importStatements (s : Store) (files : Files) (path : String) :
    Store × Except StoreError ImportSummary :=
  match recordsIn files path with
  | .error e => (s, .error e)
  | .ok records => s.transact fun s => importWork records.entries (s, {})

theorem importFile_eq (s : Store) (files : Files) (path : String) :
    s.importFile files path = recordsIn files path >>= s.importRecords := by
  unfold importFile importText recordsIn
  cases files.readText path with
  | error fault => rfl
  | ok text => rfl

theorem transact_importWork (s : Store) (entries : List (String × PathRecord))
    (told : ImportSummary) :
    s.transact (fun s => importWork entries (s, told)) =
      (s.settle (entries.foldlM importRecord (s, told)),
        (entries.foldlM importRecord (s, told)).map (·.2)) := by
  -- The store that is fallen back on is the one before the first entry, throughout.
  have onward (start : Store) (state : Store × ImportSummary) :
      start.transact (fun _ => importWork entries state) =
        (start.settle (entries.foldlM importRecord state),
          (entries.foldlM importRecord state).map (·.2)) := by
    induction entries generalizing state with
    | nil => rfl
    | cons entry entries ih =>
      rw [List.foldlM_cons]
      cases first : importRecord state entry with
      | error e => simp only [transact, importWork, first]; rfl
      | ok next =>
        refine Eq.trans ?_ (ih next)
        simp only [transact, importWork, first]
  exact onward s (s, told)

theorem importStatements_eq (s : Store) (files : Files) (path : String) :
    s.importStatements files path =
      (s.settle (s.importFile files path), (s.importFile files path).map (·.2)) := by
  rw [importFile_eq, importStatements]
  cases recordsIn files path with
  | error e => rfl
  | ok records => exact transact_importWork s records.entries {}

end Transactions

def decided (s : Store) (key : String) : Bool :=
  match s.get key with
  | .ok (some r) => r.conclusion.isSome
  | _ => false

section Keys
variable {l : Ledger} (holds : s.Holds l)
include holds

theorem Holds.decided (sorted : l.Sorted) (key : String) : s.decided key = !l.isOpen key := by
  rw [Store.decided, holds.get sorted, Ledger.isOpen, Bool.not_not]
  cases l.lookup key with
  | none => rfl
  | some r => rfl

theorem Holds.length_revisionsOf (key : String) :
    (s.revisionsOf key).length = l.revisions key := by
  have numbered := congrArg List.length (holds.numbered key)
  simpa [Ledger.numbers] using numbered

theorem Holds.importRecords_eq_ok_iff {records : Dict PathRecord}
    (distinct : records.keys.Nodup) :
    (∃ result, s.importRecords records = .ok result) ↔ l.HasRoom records.entries := by
  have follows := holds.importEntries {} records.entries
  have listed (next : Ledger) : records.entries.foldlM Ledger.importRecord l = some next ↔
      l.HasRoom records.entries ∧ next = l.taken records.entries ++ l :=
    Ledger.importEntries_eq_some_iff distinct
  unfold importRecords
  cases stored : records.entries.foldlM Store.importRecord (s, {}) with
  | error e =>
    rw [stored] at follows
    cases taken : records.entries.foldlM Ledger.importRecord l with
    | none => simpa [taken] using listed
    | some next => rw [taken] at follows; contradiction
  | ok result =>
    rw [stored] at follows
    cases taken : records.entries.foldlM Ledger.importRecord l with
    | none => rw [taken] at follows; contradiction
    | some next => simpa using ((listed next).mp taken).1

end Keys

section Growth
variable {after : Store} {news l : Ledger} (holds : s.Holds l) (held : after.Holds (news ++ l))
  (sorted : Ledger.Sorted (news ++ l)) {key : String}
include holds held sorted

theorem Holds.unchanged (absent : key ∉ news.map (·.1)) :
    after.revisionsOf key = s.revisionsOf key ∧ after.get key = s.get key := by
  have earlier : l.Sorted := fun entry member => sorted entry (List.mem_append_right _ member)
  rw [held.revisionsOf, holds.revisionsOf, Ledger.rowsOf_append_of_not_mem l absent,
    held.get sorted, holds.get earlier, Ledger.lookup_append_of_not_mem l absent]
  exact ⟨rfl, rfl⟩

theorem Holds.added (distinct : (news.map (·.1)).Nodup) {r : PathRecord}
    (member : (key, r) ∈ news) :
    (∃ row, after.revisionsOf key = s.revisionsOf key ++ [row]) ∧ after.get key = .ok (some r) := by
  rw [held.revisionsOf, holds.revisionsOf, Ledger.rowsOf_append_of_mem l distinct member,
    held.get sorted, Ledger.lookup_append_of_mem l distinct member]
  exact ⟨⟨_, rfl⟩, rfl⟩

end Growth

end Store

/-- Whatever was saved and imported before, an import never touches a key whose record has a
conclusion. To every other key that it brings it adds one revision, the record with its sink
described, and no other key changes; the report counts the keys, the revisions added and the sinks
described. It succeeds as long as the keys it adds to have a number left, and when it fails, for
whatever reason and after however many of its statements, the store is as before. -/
theorem import_spares_conclusions (submissions : List Submission)
    (sorted : ∀ x ∈ submissions, x.Sorted) (records : Dict PathRecord)
    (increasing : Increasing records.entries) (fine : ∀ entry ∈ records.entries, entry.2.Sorted) :
    let s := Store.taking submissions
    ((∃ result, s.importRecords records = .ok result) ↔
      ∀ key ∈ records.keys, s.decided key = false → (s.revisionsOf key).length + 1 < 2 ^ 63) ∧
    (∀ after summary, s.importRecords records = .ok (after, summary) →
      (∀ key, s.decided key = true →
        after.revisionsOf key = s.revisionsOf key ∧ after.get key = s.get key) ∧
      (∀ key r, (key, r) ∈ records.entries → s.decided key = false →
        (∃ row, after.revisionsOf key = s.revisionsOf key ++ [row]) ∧
          after.get key = .ok (some (Sinks.seed r))) ∧
      (∀ key, key ∉ records.keys →
        after.revisionsOf key = s.revisionsOf key ∧ after.get key = s.get key) ∧
      summary.imported + summary.keptConcluded = records.size ∧
      (∃ added, after.records = s.records ++ added ∧ added.length = summary.imported) ∧
      summary.seededSinks = records.entries.countP fun (key, r) =>
        s.decided key = false ∧ r.annotations.hasAny r.sink = false ∧ r.sink ∈ Sinks.names) ∧
    ∀ files path,
      (∀ e, s.importFile files path = .error e → s.importStatements files path = (s, .error e)) ∧
      ∀ after summary, s.importFile files path = .ok (after, summary) →
        s.importStatements files path = (after, .ok summary) := by
  intro s
  let l := Ledger.taking submissions
  have holds : s.Holds l := holds_taking submissions
  have readable : l.Sorted := Ledger.sorted_taking sorted
  have distinct : records.keys.Nodup := increasing.imp ne_of_lt
  have status (key : String) : s.decided key = !l.isOpen key := holds.decided readable key
  refine ⟨?_, ?_, ?_⟩
  · rw [holds.importRecords_eq_ok_iff distinct, Ledger.HasRoom, Dict.keys, List.forall_mem_map]
    simp only [status, holds.length_revisionsOf, Bool.not_eq_false']
  · intro after summary imported
    obtain ⟨held, rfl⟩ := holds.importEntries_eq_ok distinct imported
    have listed := (Ledger.importEntries_eq_some_iff (l := l) distinct).mpr
      ⟨(holds.importRecords_eq_ok_iff distinct).mp ⟨_, imported⟩, rfl⟩
    have readableAfter : Ledger.Sorted (l.taken records.entries ++ l) :=
      readable.importEntries fine listed
    refine ⟨?_, ?_, ?_, ?_, ?_, ?_⟩
    · intro key decided
      refine holds.unchanged held readableAfter fun added => ?_
      have isOpen := ((l.mem_keys_taken _ key).mp added).2
      simp [status, isOpen] at decided
    · intro key r member undecided
      have isOpen : l.isOpen key = true := by simpa [status] using undecided
      exact holds.added held readableAfter (l.nodup_taken distinct) (l.mem_taken member isOpen)
    · intro key absent
      refine holds.unchanged held readableAfter fun added => absent ?_
      exact ((l.mem_keys_taken _ key).mp added).1
    · simp only [ImportSummary.add, Ledger.tally, Nat.zero_add]
      exact l.length_tally records.entries
    · obtain ⟨added, grown, many⟩ := Ledger.rows_append (l.taken records.entries) l
      refine ⟨added, ?_, ?_⟩
      · rw [held, holds, grown]
      · rw [many, l.length_taken, ImportSummary.add, Nat.zero_add]
    · simp only [ImportSummary.add, Ledger.tally, Nat.zero_add]
      refine List.countP_congr fun entry _ => ?_
      rw [Bool.and_eq_true, Sinks.missing?_isSome_iff, decide_eq_true_iff, status]
      simp
  · intro files path
    constructor
    · intro e failed
      rw [s.importStatements_eq, failed]
      rfl
    · intro after summary imported
      rw [s.importStatements_eq, imported]
      rfl

theorem import_spares_conclusions_evaluating :
    let decided : PathRecord := { evaluating with conclusion := some true }
    let s := Store.taking [.one "a" decided, .one "b" evaluating]
    let brought : Dict PathRecord := ⟨[("a", evaluating), ("b", evaluating), ("c", evaluating)]⟩
    ∃ after summary, s.importRecords brought = .ok (after, summary) ∧
      after.revisionsOf "a" = s.revisionsOf "a" ∧ after.get "a" = .ok (some decided) ∧
      (∃ row, after.revisionsOf "b" = s.revisionsOf "b" ++ [row]) ∧
      after.get "c" = .ok (some (Sinks.seed evaluating)) ∧
      summary.imported + summary.keptConcluded = 3 := by
  intro decided s brought
  have plain : evaluating.Sorted := .nil
  have sorted : ∀ x ∈ [Submission.one "a" decided, .one "b" evaluating], x.Sorted := by
    simpa using ⟨plain, plain⟩
  have fine : ∀ entry ∈ brought.entries, entry.2.Sorted := by
    simpa [brought] using plain
  have increasing : Increasing brought.entries := by
    change ["a", "b", "c"].Pairwise (· < ·)
    decide +kernel
  have holds : s.Holds [("b", evaluating), ("a", decided)] := holds_taking _
  have readable : Ledger.Sorted [("b", evaluating), ("a", decided)] := Ledger.sorted_taking sorted
  have status (key : String) := holds.decided readable key
  have counted (key : String) := holds.length_revisionsOf key
  obtain ⟨succeeds, outcome, -⟩ := import_spares_conclusions _ sorted brought increasing fine
  obtain ⟨⟨after, summary⟩, imported⟩ := succeeds.mpr fun key _ _ => by
    rw [counted]
    exact Nat.lt_of_le_of_lt (Nat.succ_le_succ List.countP_le_length) (by decide)
  obtain ⟨kept, added, -, total, -⟩ := outcome after summary imported
  have closed := kept "a" (status "a")
  refine ⟨after, summary, imported, closed.1, ?_, ?_, ?_, total⟩
  · rw [closed.2, holds.get readable]
    rfl
  · exact (added "b" evaluating (by simp [brought]) (status "b")).1
  · exact (added "c" evaluating (by simp [brought]) (status "c")).2

end PathAudit
