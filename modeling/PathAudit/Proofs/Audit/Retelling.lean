import PathAudit.Proofs.Audit.Transcript

/-! A transcript as it is read after a run. Its events tell the conversation from the first reply to
the last, and what comes back of them is what their texts say: nothing but numbers can differ, and
those only where the text of a number is read as another one. -/
namespace PathAudit

def ToolCall.reread (call : ToolCall) : ToolCall := { call with arguments := call.arguments.reread }

namespace AssistantMessage

def reread (m : AssistantMessage) : AssistantMessage where
  content := m.content.map fun
    | .text shown => .text shown
    | .toolCall call => .toolCall call.reread
  usage := m.usage
  stopReason := m.stopReason

theorem calls_reread (m : AssistantMessage) : m.reread.calls = m.calls.map ToolCall.reread := by
  rw [calls, calls, reread, List.filterMap_map, List.map_filterMap]
  refine List.filterMap_congr fun content _ => ?_
  cases content with
  | text shown => rfl
  | toolCall call => rfl

theorem text_reread (m : AssistantMessage) : m.reread.text = m.text := by
  rw [text, text, reread, List.filterMap_map]
  refine congrArg (joined "") (List.filterMap_congr fun content _ => ?_)
  cases content with
  | text shown => rfl
  | toolCall call => rfl

theorem reread_of_fixed {m : AssistantMessage} (fixed : ∀ call ∈ m.calls, call.reread = call) :
    m.reread = m := by
  have same : m.reread.content = m.content := by
    refine (List.map_congr_left fun content member => ?_).trans (List.map_id _)
    cases content with
    | text shown => rfl
    | toolCall call =>
      exact congrArg AssistantContent.toolCall
        (fixed call (List.mem_filterMap.mpr ⟨_, member, rfl⟩))
  obtain ⟨content, usage, reason⟩ := m
  exact congrArg (AssistantMessage.mk · usage reason) same

end AssistantMessage

namespace Audit

namespace Entry

def calls : Entry → List ToolCall
  | .reasoning _ _ reply => reply.calls
  | .action call _ _ => [call]
  | .rejection _ | .verdict _ | .failure _ => []

def count : Entry → Nat
  | .reasoning step _ _ => step
  | .failure steps => steps
  | .action _ _ _ | .rejection _ | .verdict _ => 0

/-- An entry whose text can be read: the arguments stand up to three levels deep in it. -/
structure Legible (e : Entry) : Prop where
  count : e.count < 2 ^ 64
  readable : ∀ call ∈ e.calls, call.arguments.AllNumbers JsonNumber.Readable
  ordered : ∀ call ∈ e.calls, call.arguments.Ordered
  shallow : ∀ call ∈ e.calls, call.arguments.depth + 3 ≤ Raw.maxDepth

def reread : Entry → Entry
  | .reasoning step model reply => .reasoning step model reply.reread
  | .action call text isError => .action call.reread text isError
  | .rejection feedback => .rejection feedback
  | .verdict v => .verdict v
  | .failure steps => .failure steps

section Payloads
variable {e : Entry}

theorem allNumbers_payload {p : JsonNumber → Prop} (counted : p (.int e.count))
    (arguments : ∀ call ∈ e.calls, call.arguments.AllNumbers p) : e.payload.AllNumbers p := by
  cases e with
  | reasoning step model reply =>
    refine ⟨trivial, counted, trivial, (Json.allItems_iff _).mpr ?_, trivial⟩
    intro item member
    obtain ⟨call, inside, rfl⟩ := List.mem_map.mp member
    exact ⟨arguments call inside, trivial, trivial⟩
  | action call text isError =>
    exact ⟨arguments call List.mem_cons_self, trivial, trivial, trivial, trivial⟩
  | rejection feedback => exact ⟨trivial, trivial⟩
  | verdict v => exact ⟨trivial, trivial, trivial, trivial⟩
  | failure steps => exact ⟨trivial, counted, trivial⟩

theorem ordered_payload (arguments : ∀ call ∈ e.calls, call.arguments.Ordered) :
    e.payload.Ordered := by
  cases e with
  | reasoning step model reply =>
    have names : ["model", "step", "text", "tool_calls"].Pairwise (· < ·) := by decide
    have inner : ["arguments", "name"].Pairwise (· < ·) := by decide
    refine ⟨names, trivial, trivial, trivial, (Json.orderedItems_iff _).mpr ?_, trivial⟩
    intro item member
    obtain ⟨call, inside, rfl⟩ := List.mem_map.mp member
    exact ⟨inner, arguments call inside, trivial, trivial⟩
  | action call text isError =>
    have names : ["arguments", "is_error", "name", "result"].Pairwise (· < ·) := by decide
    exact ⟨names, arguments call List.mem_cons_self, trivial, trivial, trivial, trivial⟩
  | rejection feedback => exact ⟨List.pairwise_singleton _ _, trivial, trivial⟩
  | verdict v =>
    have names : ["feedback", "is_vulnerable", "judgment"].Pairwise (· < ·) := by decide
    exact ⟨names, trivial, trivial, trivial, trivial⟩
  | failure steps =>
    have names : ["reason", "steps"].Pairwise (· < ·) := by decide
    exact ⟨names, trivial, trivial, trivial⟩

theorem depth_payload {d : Nat} (arguments : ∀ call ∈ e.calls, call.arguments.depth ≤ d) :
    e.payload.depth ≤ d + 3 := by
  cases e with
  | reasoning step model reply =>
    have items : Json.depthOfItems (reply.calls.map fun call =>
        .object [("arguments", call.arguments), ("name", .string call.name)]) ≤ d + 1 := by
      refine (Json.depthOfItems_le_iff _ _).mpr ?_
      intro item member
      obtain ⟨call, inside, rfl⟩ := List.mem_map.mp member
      have within : call.arguments.depth ≤ d := arguments call inside
      simpa [Json.depth, Json.depthOfMembers] using within
    simpa [payload, reasoningPayload, Json.nat, Json.depth, Json.depthOfMembers] using items
  | action call text isError =>
    have within : call.arguments.depth ≤ d := arguments call List.mem_cons_self
    simp only [payload, actionPayload, Json.depth, Json.depthOfMembers]
    omega
  | _ => simp [payload, failurePayload, Json.nat, Json.depth, Json.depthOfMembers]

theorem Legible.payload (legible : e.Legible) : e.payload.Legible where
  readable := by
    refine allNumbers_payload (readable_int ?_ ?_) legible.readable
    · omega
    · exact_mod_cast legible.count
  ordered := ordered_payload legible.ordered
  shallow := by
    have within := depth_payload (d := Raw.maxDepth - 3) fun call member =>
      Nat.le_sub_of_add_le (legible.shallow call member)
    exact within

theorem reread_payload (counted : e.count < 2 ^ 64) : e.payload.reread = e.reread.payload := by
  have kept : (JsonNumber.int e.count).reread = .int e.count :=
    reread_int (by omega) (by exact_mod_cast counted)
  cases e with
  | reasoning step model reply =>
    have number : (JsonNumber.int step).reread = .int step := kept
    simp [payload, reread, reasoningPayload, Json.reread, Json.nat, Json.mapNumbers,
      Json.mapMembers, number, AssistantMessage.calls_reread, AssistantMessage.text_reread,
      Json.mapItems_eq_map, ToolCall.reread]
  | failure steps =>
    have number : (JsonNumber.int steps).reread = .int steps := kept
    simp [payload, reread, failurePayload, Json.reread, Json.nat, Json.mapNumbers,
      Json.mapMembers, number]
  | action call text isError => rfl
  | rejection feedback => rfl
  | verdict v => rfl

theorem reread_of_fixed
    (fixed : ∀ call ∈ e.calls, call.arguments.AllNumbers fun n => n.reread = n) :
    e.reread = e := by
  have same (call : ToolCall) (member : call ∈ e.calls) : call.reread = call := by
    rw [ToolCall.reread, Json.reread, Json.mapNumbers_of_fixed (fixed call member)]
  cases e with
  | reasoning step model reply =>
    exact congrArg (Entry.reasoning step model) (AssistantMessage.reread_of_fixed same)
  | action call text isError =>
    exact congrArg (Entry.action · text isError) (same call List.mem_cons_self)
  | rejection feedback => rfl
  | verdict v => rfl
  | failure steps => rfl

end Payloads

def closing : Entry → Bool
  | .verdict _ | .failure _ => true
  | .reasoning _ _ _ | .action _ _ _ | .rejection _ => false

end Entry

section Ends
variable {models : Role → String} {n : Nat} {messages : List Message} {entries : List Entry}

theorem Mirrored.open (mirrored : Mirrored models n messages entries) :
    ∀ e ∈ entries, e.closing = false := by
  induction mirrored with
  | nothing => exact nofun
  | acted role reply responses earlier wants answered ih =>
    intro e member
    rcases List.mem_append.mp member with early | late
    · exact ih e early
    · rcases List.mem_cons.mp late with rfl | response
      · rfl
      · obtain ⟨response, -, rfl⟩ := List.mem_map.mp response
        rfl
  | rejected role judgment feedback earlier final ih =>
    intro e member
    simp only [List.mem_append, List.mem_cons, List.not_mem_nil, or_false] at member
    rcases member with early | rfl | rfl
    · exact ih e early
    · rfl
    · rfl

theorem Judging.open {text : String} (judging : Judging models n messages entries text) :
    ∀ e ∈ entries, e.closing = false := by
  cases judging with
  | intro role judgment earlier final =>
    intro e member
    rcases List.mem_append.mp member with early | late
    · exact earlier.open e early
    · rw [List.mem_singleton.mp late]
      rfl

theorem Transcribed.closing_iff {asked : List Exchange}
    {result : Except AuditError AuditOutcome}
    (transcribed : Transcribed models messages entries asked result) (e : Entry)
    (closes : e.closing = true) :
    e ∈ entries ↔ (∃ outcome, result = .ok outcome ∧ e = .verdict outcome.verdict) ∨
      ∃ steps, result = .error (.budgetExhausted steps) ∧ e = .failure steps := by
  have absent {others : List Entry} (plain : ∀ e ∈ others, e.closing = false) : e ∉ others := by
    intro member
    rw [plain e member] at closes
    contradiction
  cases result with
  | ok outcome =>
    obtain ⟨earlier, judging, -, rfl⟩ := transcribed
    rw [List.mem_append, or_iff_right (absent judging.open), List.mem_singleton]
    simp
  | error reason =>
    cases reason with
    | budgetExhausted steps =>
      obtain ⟨earlier, mirrored, rfl⟩ := transcribed
      rw [List.mem_append, or_iff_right (absent mirrored.open), List.mem_singleton]
      simp
    | gateway failure =>
      have plain : ∀ e ∈ entries, e.closing = false := by
        obtain ⟨n, mirrored | ⟨⟨text, judging⟩, -⟩⟩ := transcribed
        · exact mirrored.open
        · exact judging.open
      exact iff_of_false (absent plain) (by simp)
    | store failure => exact transcribed.elim
    | internal reason => exact transcribed.elim

end Ends

section Rereading
variable {key : String} {before after : Store} {entries : List Entry} {events : List AuditEvent}

theorem Recorded.transcript (recorded : Recorded key before after entries events)
    (numbered : before.Numbered key) :
    after.transcript key =
      do return (← before.transcript key) ++ (← events.mapM AuditEvent.readBack) := by
  have kept := recorded.numbered
  rw [recorded.rows] at kept ⊢
  exact Store.transcript_add before recorded.own numbered kept

theorem Recorded.mapM_readBack (recorded : Recorded key before after entries events)
    (legible : ∀ e ∈ entries, e.Legible) :
    events.mapM AuditEvent.readBack = .ok (events.map AuditEvent.reread) := by
  refine AuditEvent.mapM_readBack ?_
  intro event member
  have listed : (event.kind, event.payload) ∈ events.map fun e => (e.kind, e.payload) :=
    List.mem_map_of_mem member
  rw [recorded.told] at listed
  obtain ⟨entry, told, same⟩ := List.mem_map.mp listed
  rw [← (Prod.mk.inj same).2]
  exact (legible entry told).payload

theorem Recorded.reread (recorded : Recorded key before after entries events)
    (legible : ∀ e ∈ entries, e.Legible) :
    events.map (fun e => (e.kind, e.reread.payload)) =
      entries.map fun e => (e.kind, e.reread.payload) := by
  have told := congrArg (List.map fun (kind, payload) => (kind, Json.reread payload)) recorded.told
  rw [List.map_map, List.map_map] at told
  refine told.trans (List.map_congr_left fun e member => ?_)
  exact congrArg (Prod.mk e.kind) (Entry.reread_payload (legible e member).count)

end Rereading

variable {σ : Type}

/-- Where the events of a path stand in their order and those of a run can be added, they tell the
conversation of the run: each reply with its number, behind it the answers to its calls or the
rejection of its judgment; a verdict in the end exactly when there is an outcome, and a failure
exactly when no question is left. What is read later is what was there before and the new events as
their texts are read, which is as they were written but for numbers in the arguments of calls. -/
theorem transcript_mirrors (c : Collaborators σ) (config : AuditConfig) (s : Session) (w : World σ)
    (numbered : w.store.Numbered s.key) (appends : Appends c config s w) :
    let ended := run c config (start config s) w
    ∃ messages entries events, ended.2.1.history = s.history ++ messages ∧
      Transcribed c.model messages entries ended.2.2.exchanges ended.1 ∧
      (∀ verdict, .verdict verdict ∈ entries ↔
        ∃ outcome, ended.1 = .ok outcome ∧ verdict = outcome.verdict) ∧
      (∀ steps, .failure steps ∈ entries ↔ ended.1 = .error (.budgetExhausted steps)) ∧
      Recorded s.key w.store ended.2.2.store entries events ∧
      ended.2.2.store.transcript s.key =
        (do return (← w.store.transcript s.key) ++ (← events.mapM AuditEvent.readBack)) ∧
      ((∀ e ∈ entries, e.Legible) →
        events.mapM AuditEvent.readBack = .ok (events.map AuditEvent.reread) ∧
        events.map (fun e => (e.kind, e.reread.payload)) =
          entries.map fun e => (e.kind, e.reread.payload)) ∧
      ∀ e ∈ entries, (∀ call ∈ e.calls, call.arguments.AllNumbers fun n => n.reread = n) →
        e.reread = e := by
  intro ended
  obtain ⟨messages, entries, events, history, transcribed, recorded⟩ :=
    run_recorded c config s w numbered appends
  refine ⟨messages, entries, events, history, transcribed, ?_, ?_, recorded,
    recorded.transcript numbered, ?_, ?_⟩
  · intro verdict
    simpa using transcribed.closing_iff (.verdict verdict) rfl
  · intro steps
    simpa using transcribed.closing_iff (.failure steps) rfl
  · intro legible
    exact ⟨recorded.mapM_readBack legible, recorded.reread legible⟩
  · intro e _ fixed
    exact Entry.reread_of_fixed fixed

section Asking
variable (code : CodeBase) (call : ToolCall)

theorem appends_asking {s : Session} {w : World Unit} (room : w.store.Room s.key 5) :
    Appends (asking code [call]) single s w := by
  obtain ⟨last, ends⟩ := run_endsAt (asking code [call]) single (start single s) w
  have short : last ≤ 5 := by
    by_contra long
    have running := ends.running 5 (by omega)
    have finished : (stage (asking code [call]) single (start single s) w 5).1.phase = _ :=
      stage_asking_last code [call] (by simp) s w
    rw [result?, finished] at running
    contradiction
  exact appends_of_room _ _ _ _ ends (room.mono short)

theorem told_asking {s : Session} {w : World Unit} (fresh : s.history = [])
    {messages : List Message} {entries : List Entry}
    (history : (run (asking code [call]) single (start single s) w).2.1.history =
      s.history ++ messages)
    (transcribed : Transcribed (asking code [call]).model messages entries
      (run (asking code [call]) single (start single s) w).2.2.exchanges
      (run (asking code [call]) single (start single s) w).1) :
    ∃ text isError,
      messages = [.assistant (.ofCalls "" [call]), .toolResult ⟨call.id, text, isError⟩] ∧
      entries = [.reasoning 1 "" (.ofCalls "" [call]), .action call text isError, .failure 1] := by
  have opens : [.assistant (.ofCalls "" [call])] <+: messages := by
    have early := stage_history_grows (asking code [call]) single (start single s) w
      (show 2 ≤ 5 by decide)
    have finished : (stage (asking code [call]) single (start single s) w 5).1.phase = _ :=
      stage_asking_last code [call] (by simp) s w
    rw [run_of_finished _ _ _ _ finished] at history
    dsimp only at history
    rw [stage_asking code [call] s w (by simp), history] at early
    simpa [fresh] using early
  rw [run_asking code [call] (by simp)] at transcribed
  obtain ⟨earlier, mirrored, rfl⟩ := transcribed
  obtain ⟨rest, rfl⟩ := opens
  generalize told : [.assistant (.ofCalls "" [call])] ++ rest = messages at mirrored
  cases mirrored with
  | acted role reply responses before wants answered =>
    cases before
    obtain ⟨same, rfl⟩ := List.cons.inj told
    cases same
    rw [AssistantMessage.calls_ofCalls] at answered
    obtain ⟨⟨made, text, isError⟩, rfl, rfl⟩ := List.map_eq_singleton_iff.mp answered
    exact ⟨text, isError, rfl, rfl⟩
  | rejected role judgment feedback before final =>
    cases before
    obtain ⟨same, -⟩ := List.cons.inj told
    cases same
    rw [AssistantMessage.calls_ofCalls] at final
    contradiction

theorem legible_asking (text : String) (isError : Bool)
    (readable : call.arguments.AllNumbers JsonNumber.Readable) (ordered : call.arguments.Ordered)
    (shallow : call.arguments.depth + 3 ≤ Raw.maxDepth) :
    ∀ e ∈ [Entry.reasoning 1 "" (.ofCalls "" [call]), .action call text isError, .failure 1],
      e.Legible := by
  have single {p : ToolCall → Prop} (holds : p call) : ∀ other ∈ [call], p other :=
    List.forall_mem_singleton.mpr holds
  intro e member
  simp only [List.mem_cons, List.not_mem_nil, or_false] at member
  rcases member with rfl | rfl | rfl
  · have calls : Entry.calls (.reasoning 1 "" (.ofCalls "" [call])) = [call] :=
      AssistantMessage.calls_ofCalls "" [call]
    refine ⟨show 1 < 2 ^ 64 by decide, ?_, ?_, ?_⟩
    · rw [calls]
      exact single readable
    · rw [calls]
      exact single ordered
    · rw [calls]
      exact single shallow
  · exact ⟨show 0 < 2 ^ 64 by decide, single readable, single ordered, single shallow⟩
  · exact ⟨by decide, nofun, nofun, nofun⟩

end Asking

private theorem room_nothing (key : String) : Store.Room {} key 5 :=
  ⟨[], rfl, .nil, by decide, by decide⟩

theorem transcript_mirrors_noop :
    let call : ToolCall := ⟨"t1", "noop", .null⟩
    let ended := run (asking {} [call]) single (start single Service.threeCalls) { outside := () }
    Store.Numbered {} Service.threeCalls.key ∧
      Appends (asking {} [call]) single Service.threeCalls { outside := () } ∧
      ∃ text isError events,
        ended.2.1.history =
          [.assistant (.ofCalls "" [call]), .toolResult ⟨"t1", text, isError⟩] ∧
        ended.2.2.store.transcript Service.threeCalls.key = .ok events ∧
        events.map (fun e => (e.kind, e.payload)) =
          [(.reasoning, reasoningPayload 1 "" (.ofCalls "" [call])),
            (.action, actionPayload call text isError), (.failure, failurePayload 1)] := by
  intro call ended
  have appends := appends_asking {} call (w := { outside := () })
    (room_nothing Service.threeCalls.key)
  obtain ⟨messages, entries, events, history, transcribed, -, -, -, read, legibly, -⟩ :=
    transcript_mirrors (asking {} [call]) single Service.threeCalls { outside := () }
      (Store.numbered_nothing _) appends
  obtain ⟨text, isError, rfl, rfl⟩ := told_asking {} call rfl history transcribed
  obtain ⟨all, told⟩ := legibly (legible_asking call text isError trivial trivial (by decide))
  refine ⟨Store.numbered_nothing _, appends, text, isError, events.map AuditEvent.reread, history,
    ?_, ?_⟩
  · rw [read, Store.transcript_nothing, all]
    rfl
  · rw [List.map_map]
    exact told

/-- A little more than `2.5e28`, and the number before it. -/
def longer : Double := ⟨false, 5684341886080802, 42⟩

def shorter : Double := ⟨false, 5684341886080801, 42⟩

private theorem parse_longer :
    Json.parse (Json.float longer).compact = .ok (.float shorter) := by
  have text : Json.numberText (.float longer) = "2.5000000000000002e+28".toList := by
    simp only [String.reduceToList]
    decide +kernel
  have scanned : Raw.scanNumber false "2.5000000000000002e+28".toList =
      .ok (.ok (.float shorter), []) := by
    simp only [String.reduceToList]
    rfl
  refine parse_number ?_
  rw [text]
  exact written_scanned scanned

/-- The reply asks for one number, and the transcript is read as if it had asked for another. -/
theorem transcript_rounds :
    let call : ToolCall := ⟨"t1", "noop", .float longer⟩
    let ended := run (asking {} [call]) single (start single Service.threeCalls) { outside := () }
    Store.Numbered {} Service.threeCalls.key ∧
      Appends (asking {} [call]) single Service.threeCalls { outside := () } ∧
      ∃ text isError first more,
        ended.2.1.history =
          [.assistant (.ofCalls "" [call]), .toolResult ⟨"t1", text, isError⟩] ∧
        ended.2.2.store.transcript Service.threeCalls.key = .ok (first :: more) ∧
        first.kind = .reasoning ∧
        first.payload =
          reasoningPayload 1 "" (.ofCalls "" [⟨"t1", "noop", .float shorter⟩]) ∧
        first.payload ≠ reasoningPayload 1 "" (.ofCalls "" [call]) := by
  intro call ended
  have numbered := Store.numbered_nothing Service.threeCalls.key
  have appends := appends_asking {} call (w := { outside := () })
    (room_nothing Service.threeCalls.key)
  obtain ⟨messages, entries, events, history, transcribed, recorded⟩ :=
    run_recorded (asking {} [call]) single Service.threeCalls { outside := () } numbered appends
  obtain ⟨text, isError, rfl, rfl⟩ := told_asking {} call rfl history transcribed
  have legible := legible_asking call text isError
    (show JsonNumber.Readable _ from ⟨_, parse_longer⟩) trivial (by decide)
  have rereads : (JsonNumber.float longer).reread = .float shorter := by
    have parsed : Json.parse (Json.number (.float longer)).compact = .ok (.float shorter) :=
      parse_longer
    rw [JsonNumber.reread, parsed]
    rfl
  have asked : (AssistantMessage.ofCalls "" [call]).reread =
      .ofCalls "" [⟨"t1", "noop", .float shorter⟩] := by
    have arguments : Json.reread (.float longer) = .float shorter := congrArg Json.number rereads
    simp [AssistantMessage.reread, AssistantMessage.ofCalls, ToolCall.reread, call, arguments]
  have told := recorded.reread legible
  obtain ⟨first, more, rfl, same, -⟩ := List.map_eq_cons_iff.mp told
  obtain ⟨kind, payload⟩ := Prod.mk.inj same
  have shown : first.reread.payload =
      reasoningPayload 1 "" (.ofCalls "" [⟨"t1", "noop", .float shorter⟩]) := by
    rw [payload, Entry.reread, asked]
    rfl
  refine ⟨numbered, appends, text, isError, first.reread, more.map AuditEvent.reread, history, ?_,
    kind, shown, ?_⟩
  · rw [recorded.transcript numbered, Store.transcript_nothing, recorded.mapM_readBack legible]
    rfl
  · rw [shown]
    simp [reasoningPayload, AssistantMessage.calls_ofCalls, call, Json.float, shorter, longer]

end Audit

end PathAudit
