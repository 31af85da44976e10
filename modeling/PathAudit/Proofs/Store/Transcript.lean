import PathAudit.Proofs.Json.Rereading
import PathAudit.Proofs.Store.Numbering
import PathAudit.Store.Events

/-! A transcript that is added to. Each event gets the number after the last, so that the order of
the numbers is the order in which events came; what is read is what was there before, and behind it
the new events as their texts are read. -/
namespace PathAudit

namespace AuditEvent

def row (e : AuditEvent) : EventRow :=
  ⟨.text e.key, .int e.sequence, .text e.kind.name, .text e.payload.compact⟩

def readBack (e : AuditEvent) : Except StoreError AuditEvent :=
  ((Json.parse e.payload.compact).mapError fun fault =>
    .corruptJson "audit_events" "payload" (.fault fault)).map fun payload => { e with payload }

theorem readEvent_row (e : AuditEvent) : Store.readEvent e.row = e.readBack := by
  unfold Store.readEvent row readBack
  simp only [Cell.readText, Cell.readInt, Except.mapError, EventKind.ofName?_name, bind,
    Except.bind]
  cases Json.parse e.payload.compact with
  | error fault => rfl
  | ok payload => rfl

def reread (e : AuditEvent) : AuditEvent := { e with payload := e.payload.reread }

theorem mapM_readBack {events : List AuditEvent} (legible : ∀ e ∈ events, e.payload.Legible) :
    events.mapM readBack = .ok (events.map reread) := by
  refine Store.mapM_eq_ok fun e member => ?_
  rw [readBack, parse_compact (legible e member)]
  rfl

end AuditEvent

namespace Store
variable {s after : Store} {key : String}

/-- The events of the path have increasing numbers, as they come. -/
def Numbered (s : Store) (key : String) : Prop :=
  ∃ numbers : List Int, (s.eventsOf key).map (·.sequence) = numbers.map .int ∧
    numbers.Pairwise (· < ·)

theorem eventsOf_append (s : Store) (key : String) (rows : List EventRow) :
    eventsOf { s with events := s.events ++ rows } key =
      s.eventsOf key ++ rows.filter fun row => row.key.equals (.text key) :=
  List.filter_append ..

theorem eventsOf_add (s : Store) {key : String} {events : List AuditEvent}
    (own : ∀ e ∈ events, e.key = key) :
    eventsOf { s with events := s.events ++ events.map AuditEvent.row } key =
      s.eventsOf key ++ events.map AuditEvent.row := by
  rw [eventsOf_append, List.filter_eq_self.mpr]
  intro row member
  obtain ⟨e, inside, rfl⟩ := List.mem_map.mp member
  simp [AuditEvent.row, own e inside]

theorem sequences_add {numbers : List Int}
    (sequences : (s.eventsOf key).map (·.sequence) = numbers.map .int) (event : AuditEvent)
    (own : event.key = key) :
    (eventsOf { s with events := s.events ++ [event.row] } key).map (·.sequence) =
      (numbers ++ [event.sequence]).map .int := by
  rw [eventsOf_append, List.map_append, sequences, List.map_append]
  simp [AuditEvent.row, own]

theorem append_spec {kind : EventKind} {payload : Json} {event : AuditEvent}
    (numbered : s.Numbered key) (appended : s.append key kind payload = .ok (after, event)) :
    event.key = key ∧ event.kind = kind ∧ event.payload = payload ∧
      after = { s with events := s.events ++ [event.row] } ∧ after.Numbered key := by
  obtain ⟨numbers, sequences, increasing⟩ := numbered
  unfold append at appended
  rw [sequences] at appended
  cases next : nextNumber "sequence" (numbers.map .int) with
  | error e =>
    rw [next] at appended
    contradiction
  | ok n =>
    rw [next] at appended
    obtain ⟨rfl, rfl⟩ := Prod.mk.inj (Except.ok.inj appended)
    obtain ⟨rfl, -⟩ := (nextNumber_eq_ok_iff increasing "sequence" n).mp next
    have added := sequences_add sequences ⟨key, numbers.getLast?.getD 0 + 1, kind, payload⟩ rfl
    exact ⟨rfl, rfl, rfl, rfl, _, added, pairwise_next increasing⟩

theorem numbered_nothing (key : String) : Numbered {} key := ⟨[], rfl, .nil⟩

theorem Numbered.append {kind : EventKind} {payload : Json} {event : AuditEvent}
    (numbered : ∀ path, s.Numbered path)
    (appended : s.append key kind payload = .ok (after, event)) (path : String) :
    after.Numbered path := by
  obtain ⟨own, -, -, rows, kept⟩ := append_spec (numbered key) appended
  by_cases same : path = key
  · rwa [same]
  · have others : after.eventsOf path = s.eventsOf path := by
      have foreign : event.row.key.equals (.text path) = false := by
        simp [AuditEvent.row, own, Ne.symm same]
      rw [rows, eventsOf_append, List.filter_singleton, foreign]
      simp
    rw [Numbered, others]
    exact numbered path

/-- The store after an event was to be added; a failure changes nothing. -/
def recorded (s : Store) (key : String) (kind : EventKind) (payload : Json) : Store :=
  match s.append key kind payload with
  | .ok (after, _) => after
  | .error _ => s

theorem numbered_recorded (events : List (String × EventKind × Json)) (path : String) :
    Numbered (events.foldl (fun s (key, kind, payload) => s.recorded key kind payload) {})
      path := by
  have onward (s : Store) (numbered : ∀ path, s.Numbered path) :
      ∀ path, Numbered
        (events.foldl (fun s (key, kind, payload) => s.recorded key kind payload) s) path := by
    induction events generalizing s with
    | nil => exact numbered
    | cons event events ih =>
      obtain ⟨key, kind, payload⟩ := event
      refine ih _ fun path => ?_
      change (s.recorded key kind payload).Numbered path
      unfold recorded
      cases appended : s.append key kind payload with
      | error e => exact numbered path
      | ok added => exact Numbered.append numbered appended path
  exact onward {} numbered_nothing path

/-- The numbers of the path's events can go on for so many events more. -/
def Room (s : Store) (key : String) (more : Nat) : Prop :=
  ∃ numbers : List Int, (s.eventsOf key).map (·.sequence) = numbers.map .int ∧
    numbers.Pairwise (· < ·) ∧ 0 ≤ numbers.getLast?.getD 0 ∧
    numbers.getLast?.getD 0 + more < 2 ^ 63

theorem Room.mono {more fewer : Nat} (room : s.Room key more) (less : fewer ≤ more) :
    s.Room key fewer := by
  obtain ⟨numbers, sequences, increasing, positive, fits⟩ := room
  exact ⟨numbers, sequences, increasing, positive, by omega⟩

theorem Room.append {more : Nat} (room : s.Room key (more + 1)) (kind : EventKind)
    (payload : Json) :
    ∃ after event, s.append key kind payload = .ok (after, event) ∧ after.Room key more := by
  obtain ⟨numbers, sequences, increasing, positive, fits⟩ := room
  have next : nextNumber "sequence" (numbers.map .int) = .ok (numbers.getLast?.getD 0 + 1) := by
    refine (nextNumber_eq_ok_iff increasing "sequence" _).mpr ⟨rfl, ?_⟩
    simp [Cell.fitsInteger]
    omega
  let event : AuditEvent := ⟨key, numbers.getLast?.getD 0 + 1, kind, payload⟩
  refine ⟨_, event, ?_, _, sequences_add sequences event rfl, pairwise_next increasing, ?_, ?_⟩
  · rw [Store.append, sequences, next]
    rfl
  · rw [List.getLast?_concat, Option.getD_some]
    dsimp only [event]
    omega
  · rw [List.getLast?_concat, Option.getD_some]
    dsimp only [event]
    omega

theorem sortBy_numbered (numbered : s.Numbered key) :
    Cell.sortBy (fun a b => a.sequence.before b.sequence) (s.eventsOf key) = s.eventsOf key := by
  obtain ⟨numbers, sequences, increasing⟩ := numbered
  have ordered : ((s.eventsOf key).map (·.sequence)).Pairwise fun a b => b.before a = false := by
    rw [sequences, List.pairwise_map]
    refine increasing.imp ?_
    intro m n below
    simpa using Int.le_of_lt below
  refine List.mergeSort_of_pairwise ?_
  refine (List.pairwise_map.mp ordered).imp ?_
  intro a b held
  simp [held]

theorem transcript_nothing (key : String) : transcript {} key = .ok [] := by
  simp [transcript, eventsOf, Cell.sortBy]
  rfl

private theorem mapM_append_eq {α β : Type} (f : α → Except StoreError β) (xs ys : List α) :
    (xs ++ ys).mapM f = do return (← xs.mapM f) ++ (← ys.mapM f) := List.mapM_append

theorem transcript_add (s : Store) {events : List AuditEvent} (own : ∀ e ∈ events, e.key = key)
    (before : s.Numbered key)
    (numbered : Numbered { s with events := s.events ++ events.map AuditEvent.row } key) :
    transcript { s with events := s.events ++ events.map AuditEvent.row } key =
      do return (← s.transcript key) ++ (← events.mapM AuditEvent.readBack) := by
  have rows : (events.map AuditEvent.row).mapM readEvent = events.mapM AuditEvent.readBack := by
    rw [List.mapM_map]
    exact congrArg (List.mapM · events) (funext AuditEvent.readEvent_row)
  unfold transcript
  rw [sortBy_numbered numbered, sortBy_numbered before, eventsOf_add s own, mapM_append_eq, rows]

end Store

end PathAudit
