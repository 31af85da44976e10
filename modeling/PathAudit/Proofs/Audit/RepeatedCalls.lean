import PathAudit.Proofs.Audit.CallText
import PathAudit.Proofs.Audit.Stages

/-! Calls that are made again. Each answer that is not itself a repetition opens with the
description of its call, so from then on a call that is written the same is answered from the
conversation; and no other answer can be taken for it, because the description tells where it
ends. -/
namespace PathAudit.Audit
variable {σ : Type}

def Calls (a : Audit) (call : ToolCall) : Prop := ∃ calls, a.phase = .acting (call :: calls)

/-- The call is answered from the conversation. Nobody is asked, nothing is drawn and nothing in the
session changes but the conversation and the mark of a repeated call. -/
structure Recalled (before after : Audit × World σ) (call : ToolCall) (prior : String) : Prop where
  known : priorResult? before.1.session.history (Action.describe call) = some prior
  session : after.1.session = { before.1.session with
    repeatCall := true
    history := before.1.session.history ++
      [.toolResult ⟨call.id, Prompt.repeatedCall ++ prior, false⟩] }
  world : ∃ store notices, after.2 = { before.2 with store, notices }

structure CarriedOut (c : Collaborators σ) (config : AuditConfig) (before after : Audit × World σ)
    (call : ToolCall) (text : String) (isError : Bool) : Prop where
  new : priorResult? before.1.session.history (Action.describe call) = none
  result : (execute c config call before.1.session { before.2 with notices := [] }).1 =
    (text, isError)
  session :
    let done := (execute c config call before.1.session { before.2 with notices := [] }).2.1
    after.1.session = { done with
      history := before.1.session.history ++ [.toolResult ⟨call.id, text, isError⟩] }

/-- Stage `m` carries out the first call of the audit that is written like this one. -/
structure Original (c : Collaborators σ) (config : AuditConfig) (a : Audit) (w : World σ)
    (call : ToolCall) (m : Nat) (first : ToolCall) (text : String) (isError : Bool) : Prop where
  called : Calls (stage c config a w m).1 first
  alike : call.Repeats first
  done : CarriedOut c config (stage c config a w m) (stage c config a w (m + 1)) first text isError
  earliest : ∀ k < m, ∀ other, Calls (stage c config a w k).1 other → ¬call.Repeats other

theorem Calls.unique {a : Audit} {call other : ToolCall} (called : Calls a call)
    (calledToo : Calls a other) : call = other := by
  obtain ⟨calls, phase⟩ := called
  obtain ⟨others, phaseToo⟩ := calledToo
  exact (List.cons.inj (Phase.acting.inj (phase.symm.trans phaseToo))).1

section Texts

/-- The text opens with the description and goes on to say how that came out. -/
def Reports (description text : String) : Prop :=
  ∃ rest, text.toList = description.toList ++ rest ∧
    (" succeeded: ".toList <+: rest ∨ " failed: ".toList <+: rest)

theorem priorResult?_append (history more : List Message) (description : String) :
    priorResult? (history ++ more) description =
      (priorResult? history description).or (priorResult? more description) :=
  List.findSome?_append

theorem reports_iff (description text : String) :
    Reports description text ↔ ∃ rest, afterHead? description text = some rest ∧
      (startsWith " succeeded: " rest || startsWith " failed: " rest) = true := by
  have starts (rest : List Char) :
      (startsWith " succeeded: " (String.ofList rest) ||
        startsWith " failed: " (String.ofList rest)) = true ↔
      " succeeded: ".toList <+: rest ∨ " failed: ".toList <+: rest := by
    have chars : (String.ofList rest).toList = rest := String.toList_ofList
    rw [startsWith, startsWith, chars, Bool.or_eq_true, List.isPrefixOf_iff_prefix,
      List.isPrefixOf_iff_prefix]
  simp only [afterHead?, Option.map_eq_some_iff, List.isPrefixOf?_eq_some_iff_append_eq]
  constructor
  · rintro ⟨rest, shown, ending⟩
    exact ⟨_, ⟨rest, shown.symm, rfl⟩, (starts rest).mpr ending⟩
  · rintro ⟨_, ⟨rest, shown, rfl⟩, ending⟩
    exact ⟨rest, shown.symm, (starts rest).mp ending⟩

theorem priorResult?_result (r : ToolResult) (description prior : String) :
    priorResult? [.toolResult r] description = some prior ↔
      Reports description r.text ∧ r.text = prior := by
  rw [reports_iff]
  simp only [priorResult?, List.findSome?_cons, List.findSome?_nil]
  cases afterHead? description r.text with
  | none => simp
  | some rest =>
    simp only [Option.some.injEq, exists_eq_left']
    generalize (startsWith " succeeded: " rest || startsWith " failed: " rest) = ended
    cases ended with
    | true => simp
    | false => simp

theorem not_reports_repeated (call : ToolCall) (prior : String) :
    ¬Reports (Action.describe call) (Prompt.repeatedCall ++ prior) := by
  rintro ⟨rest, text, -⟩
  have opening := congrArg List.head? text
  simp [Prompt.repeatedCall, Action.describe] at opening

theorem Reports.repeats {call first : ToolCall} {text : String} (plain : call.NamedPlainly)
    (firstPlain : first.NamedPlainly) (reports : Reports (Action.describe call) text)
    (original : Reports (Action.describe first) text) : call.Repeats first := by
  have ended {rest : List Char}
      (ending : " succeeded: ".toList <+: rest ∨ " failed: ".toList <+: rest) :
      Json.Ended rest := by
    rcases ending with ⟨more, rfl⟩ | ⟨more, rfl⟩
    · exact Json.ended_cons _ (by decide)
    · exact Json.ended_cons _ (by decide)
  obtain ⟨rest, shown, ending⟩ := reports
  obtain ⟨other, same, otherEnd⟩ := original
  exact Action.repeats_of_describe_append plain firstPlain (ended ending) (ended otherEnd)
    (shown.symm.trans same)

theorem execute_reports (c : Collaborators σ) (config : AuditConfig) (call : ToolCall)
    (s : Session) (w : World σ) :
    Reports (Action.describe call) (execute c config call s w).1.1 := by
  have succeeded (content : String) :
      Reports (Action.describe call) (Action.describe call ++ " succeeded: " ++ content) :=
    ⟨_, by rw [String.append_assoc, String.toList_append], Or.inl ⟨_, String.toList_append.symm⟩⟩
  have failed (content : String) :
      Reports (Action.describe call) (Action.describe call ++ " failed: " ++ content) :=
    ⟨_, by rw [String.append_assoc, String.toList_append], Or.inr ⟨_, String.toList_append.symm⟩⟩
  unfold execute
  dsimp only
  split
  next reason unread => exact failed reason
  next action decoded =>
    split
    · exact failed _
    · exact succeeded _

end Texts

section Steps

private theorem record_eq (w : World σ) (key : String) (kind : EventKind) (payload : Json) :
    ∃ store notices, w.record key kind payload = { w with store, notices } := by
  unfold World.record
  split
  · exact ⟨_, _, rfl⟩
  · exact ⟨_, _, rfl⟩

variable (c : Collaborators σ) (config : AuditConfig)

theorem step_calls {a : Audit} {call : ToolCall} (called : Calls a call) (w : World σ) :
    (∃ prior, Recalled (a, w) (step c config a w) call prior) ∨
      ∃ text isError, CarriedOut c config (a, w) (step c config a w) call text isError := by
  obtain ⟨calls, phase⟩ := called
  cases known : priorResult? a.session.history (Action.describe call) with
  | some prior =>
    refine Or.inl ⟨prior, known, ?_, ?_⟩
    · simp [step, World.under, advance, phase, act, respond, known]
    · simp only [step, World.under, advance, phase, act, respond, known]
      obtain ⟨store, notices, recorded⟩ := record_eq
        (World.tell { w with notices := [] }
          [.warn target "repeated call" [Notice.shown "action" call.name]])
        a.session.key .action (actionPayload call (Prompt.repeatedCall ++ prior) false)
      rw [recorded]
      exact ⟨_, _, rfl⟩
  | none =>
    have kept := (respond_answer c config call a.session { w with notices := [] }).1.keeps.1
    simp only [respond, known] at kept
    refine Or.inr ⟨_, _, known, rfl, ?_⟩
    simp only [step, World.under, advance, phase, act, respond, known, kept]

theorem step_known {a : Audit} {call : ToolCall} (called : Calls a call) (w : World σ) :
    ∃ prior, priorResult? (step c config a w).1.session.history (Action.describe call) =
      some prior := by
  rcases step_calls c config called w with ⟨prior, recalled⟩ | ⟨text, isError, done⟩
  · refine ⟨prior, ?_⟩
    rw [recalled.session]
    dsimp only
    rw [priorResult?_append, recalled.known, Option.some_or]
  · have reports := execute_reports c config call a.session { w with notices := [] }
    rw [done.result] at reports
    refine ⟨text, ?_⟩
    rw [done.session]
    dsimp only
    rw [priorResult?_append, done.new, Option.none_or, priorResult?_result]
    exact ⟨reports, rfl⟩

theorem Moves.new_result {r : Resolver} {config : AuditConfig} {a b : Audit}
    {made : List Exchange} (move : Moves r config a made b) {description prior : String}
    (unknown : priorResult? a.session.history description = none)
    (known : priorResult? b.session.history description = some prior) :
    ∃ call isError, Calls a call ∧ Reports description prior ∧
      b.session.history = a.session.history ++ [.toolResult ⟨call.id, prior, isError⟩] := by
  have added (more : List Message)
      (grown : priorResult? (a.session.history ++ more) description = some prior) :
      priorResult? more description = some prior := by
    rwa [priorResult?_append, unknown, Option.none_or] at grown
  cases move with
  | act s n call calls text isError after made answer findings =>
    dsimp only at known added ⊢
    rw [answer.keeps.1] at known ⊢
    obtain ⟨reports, rfl⟩ := (priorResult?_result _ description prior).mp (added _ known)
    exact ⟨call, isError, ⟨calls, rfl⟩, reports, rfl⟩
  | propose s n reply left final => exact absurd (added _ known) (by simp [priorResult?])
  | request s n reply left wants => exact absurd (added _ known) (by simp [priorResult?])
  | reject s n text remark reply feedback rejected =>
    exact absurd (added _ known) (by simp [priorResult?, Message.userText])
  | _ => exact absurd (unknown.symm.trans known) (by simp)

end Steps

section Along
variable (c : Collaborators σ) (config : AuditConfig) (a : Audit) (w : World σ)

theorem recalled_of_earlier {m n : Nat} {first call : ToolCall} (earlier : m < n)
    (firstCalled : Calls (stage c config a w m).1 first)
    (called : Calls (stage c config a w n).1 call) (alike : call.Repeats first) :
    ∃ prior, Recalled (stage c config a w n) (stage c config a w (n + 1)) call prior := by
  obtain ⟨prior, known⟩ := step_known c config firstCalled (stage c config a w m).2
  obtain ⟨more, grown⟩ := stage_history_grows c config a w (Nat.succ_le_of_lt earlier)
  have still : priorResult? (stage c config a w n).1.session.history (Action.describe call) =
      some prior := by
    rw [← grown, priorResult?_append, Action.describe_eq_of_repeats alike, stage, known,
      Option.some_or]
  rcases step_calls c config called (stage c config a w n).2 with recalled | ⟨_, _, done⟩
  · exact recalled
  · exact absurd (done.new.symm.trans still) (by simp)

theorem known_since {n : Nat} {description prior : String}
    (known : priorResult? (stage c config a w n).1.session.history description = some prior) :
    priorResult? a.session.history description = some prior ∨
      ∃ m < n, priorResult? (stage c config a w m).1.session.history description = none ∧
        priorResult? (stage c config a w (m + 1)).1.session.history description = some prior := by
  induction n with
  | zero => exact Or.inl known
  | succ n ih =>
    cases before : priorResult? (stage c config a w n).1.session.history description with
    | none => exact Or.inr ⟨n, Nat.lt_succ_self n, before, known⟩
    | some text =>
      obtain ⟨more, grown⟩ := stage_history_grows c config a w (Nat.le_succ n)
      have same : text = prior := by
        rw [← grown, priorResult?_append, before, Option.some_or] at known
        exact Option.some.inj known
      rcases ih (same ▸ before) with initial | ⟨m, earlier, became⟩
      · exact Or.inl initial
      · exact Or.inr ⟨m, Nat.lt_succ_of_lt earlier, became⟩

theorem original_of_recalled
    (plain : ∀ n call, Calls (stage c config a w n).1 call → call.NamedPlainly)
    {n : Nat} {call : ToolCall} {prior : String} (called : Calls (stage c config a w n).1 call)
    (recalled : Recalled (stage c config a w n) (stage c config a w (n + 1)) call prior) :
    (∃ r, .toolResult r ∈ a.session.history ∧ r.text = prior ∧
        Reports (Action.describe call) prior) ∨
      ∃ m < n, ∃ first isError, Original c config a w call m first prior isError := by
  rcases known_since c config a w recalled.known with initial | ⟨m, earlier, unknown, known⟩
  · refine Or.inl ?_
    obtain ⟨message, member, found⟩ := List.exists_of_findSome?_eq_some initial
    cases message with
    | toolResult r =>
      have single : priorResult? [.toolResult r] (Action.describe call) = some prior := by
        rw [priorResult?, List.findSome?_cons, found]
      obtain ⟨reports, same⟩ := (priorResult?_result r _ prior).mp single
      exact ⟨r, member, same, same ▸ reports⟩
    | user message => contradiction
    | assistant message => contradiction
  · refine Or.inr ⟨m, earlier, ?_⟩
    rcases stage_moves c config a w m with same | ⟨made, move, -⟩
    · rw [same, unknown] at known
      contradiction
    obtain ⟨first, isError, firstCalled, reports, grown⟩ := move.new_result unknown known
    have told {message : Message}
        (added : (stage c config a w (m + 1)).1.session.history =
          (stage c config a w m).1.session.history ++ [message]) :
        Message.toolResult ⟨first.id, prior, isError⟩ = message := by
      simpa using grown.symm.trans added
    rcases step_calls c config firstCalled (stage c config a w m).2 with
      ⟨text, again⟩ | ⟨text, failed, done⟩
    · -- A repetition opens otherwise than any description.
      have same := told (congrArg Session.history again.session)
      simp only [Message.toolResult.injEq, ToolResult.mk.injEq] at same
      rw [same.2.1] at reports
      exact absurd reports (not_reports_repeated call text)
    · have same := told (congrArg Session.history done.session)
      simp only [Message.toolResult.injEq, ToolResult.mk.injEq, true_and] at same
      obtain ⟨rfl, rfl⟩ := same
      have original := execute_reports c config first (stage c config a w m).1.session
        { (stage c config a w m).2 with notices := [] }
      rw [done.result] at original
      have alike := reports.repeats (plain n call called) (plain m first firstCalled) original
      refine ⟨first, isError, firstCalled, alike, done, ?_⟩
      intro k before other otherCalled otherAlike
      have likeOther : first.Repeats other :=
        ⟨alike.1.symm.trans otherAlike.1, alike.2.symm.trans otherAlike.2⟩
      obtain ⟨_, again⟩ := recalled_of_earlier c config a w before otherCalled firstCalled likeOther
      exact absurd (done.new.symm.trans again.known) (by simp)

theorem carriedOut_of_new
    (plain : ∀ n call, Calls (stage c config a w n).1 call → call.NamedPlainly)
    (fresh : a.session.history = []) {n : Nat} {call : ToolCall}
    (called : Calls (stage c config a w n).1 call)
    (new : ∀ m < n, ∀ other, Calls (stage c config a w m).1 other → ¬call.Repeats other) :
    ∃ text isError, CarriedOut c config (stage c config a w n) (stage c config a w (n + 1)) call
      text isError := by
  rcases step_calls c config called (stage c config a w n).2 with ⟨prior, recalled⟩ | done
  · rcases original_of_recalled c config a w plain called recalled with
      ⟨r, member, -⟩ | ⟨m, earlier, first, isError, original⟩
    · rw [fresh] at member
      exact nomatch member
    · exact absurd original.alike (new m earlier first original.called)
  · exact done

end Along

/-- Every call of an audit is answered from the conversation or carried out. It is carried out at
most once for each name and text of its arguments, and from then on answered from the conversation.
As long as no name has a blank in it, what a call is answered with from the conversation is the
answer that was recorded for the first call written the same. -/
theorem calls_carriedOut_once (c : Collaborators σ) (config : AuditConfig) (s : Session)
    (w : World σ) :
    let along := stage c config (start config s) w
    (∃ last, EndsAt c config (start config s) w last) ∧
    (∀ n call, Calls (along n).1 call →
      (∃ prior, Recalled (along n) (along (n + 1)) call prior) ∨
        ∃ text isError, CarriedOut c config (along n) (along (n + 1)) call text isError) ∧
    (∀ m n first call, m < n → Calls (along m).1 first → Calls (along n).1 call →
      call.Repeats first →
      (∃ prior, Recalled (along n) (along (n + 1)) call prior) ∧
        ∀ text isError, ¬CarriedOut c config (along n) (along (n + 1)) call text isError) ∧
    ((∀ n call, Calls (along n).1 call → call.NamedPlainly) →
      ∀ n call prior, Calls (along n).1 call → Recalled (along n) (along (n + 1)) call prior →
        (∃ r, .toolResult r ∈ s.history ∧ r.text = prior ∧
            Reports (Action.describe call) prior) ∨
          ∃ m < n, ∃ first isError,
            Original c config (start config s) w call m first prior isError) := by
  intro along
  refine ⟨run_endsAt c config _ w, ?_, ?_, ?_⟩
  · intro n call called
    exact step_calls c config called (along n).2
  · intro m n first call earlier firstCalled called alike
    obtain ⟨prior, recalled⟩ :=
      recalled_of_earlier c config _ w earlier firstCalled called alike
    refine ⟨⟨prior, recalled⟩, fun text isError done => ?_⟩
    exact absurd (done.new.symm.trans recalled.known) (by simp)
  · intro plain n call prior called recalled
    exact original_of_recalled c config _ w plain called recalled

/-- A reasoner that always asks for the same calls, over a code base of its own. -/
def asking (code : CodeBase) (calls : List ToolCall) : Collaborators Unit where
  resolver := code.resolver
  model _ := ""
  ask _ _ _ outside := (.ok [.done (.ofCalls "" calls) .toolUse], outside)
  draw _ _ _ outside := (.error (.graphviz "no drawings"), outside)

def single : AuditConfig := { maxSteps := 1, annotateOnStart := false }

private theorem advance_asking (code : CodeBase) {calls : List ToolCall} (wants : calls ≠ [])
    {config : AuditConfig} {n : Nat} (left : n < config.maxSteps) (s : Session) (w : World Unit) :
    (advance (asking code calls) config ⟨s, n, .reasoning⟩ w).1 =
      ⟨{ s with repeatCall := false, history := s.history ++ [.assistant (.ofCalls "" calls)] },
        n + 1, .acting calls⟩ := by
  have within : ¬config.maxSteps ≤ n := Nat.not_le_of_lt left
  have pending : calls.isEmpty = false := by simpa using wants
  simp only [advance, within, if_false, reason, World.ask, asking, Reply.complete,
    StreamEvent.settle, AssistantMessage.calls_ofCalls, pending]
  rfl

private def Within (calls : List ToolCall) (a : Audit) : Prop :=
  ∀ rest, a.phase = .acting rest → ∀ call ∈ rest, call ∈ calls

private theorem step_within (code : CodeBase) {calls : List ToolCall} (wants : calls ≠ [])
    (config : AuditConfig) (a : Audit) (w : World Unit) (within : Within calls a) :
    Within calls (step (asking code calls) config a w).1 := by
  obtain ⟨s, n, phase⟩ := a
  rw [step_fst]
  intro rest acting
  cases phase with
  | reasoning =>
    rcases Nat.lt_or_ge n config.maxSteps with left | spent
    · rw [advance_asking code wants left] at acting
      cases acting
      exact fun call member => member
    · simp only [advance, spent, if_true] at acting
      contradiction
  | acting left =>
    cases left with
    | nil => contradiction
    | cons call left =>
      cases acting
      exact fun other member => within _ rfl other (List.mem_cons_of_mem _ member)
  | annotating nodes => cases nodes <;> contradiction
  | drawing => contradiction
  | proposing text => contradiction
  | verifying text remark =>
    simp only [advance] at acting
    split at acting <;> contradiction
  | concluding text =>
    simp only [advance] at acting
    split at acting <;> contradiction
  | finished result => contradiction

theorem step_acting (c : Collaborators σ) (config : AuditConfig) {a : Audit}
    {call : ToolCall} {calls : List ToolCall} (phase : a.phase = .acting (call :: calls))
    (w : World σ) :
    (step c config a w).1.phase = .acting calls ∧ (step c config a w).1.steps = a.steps := by
  simp [step_fst, advance, phase]

theorem stage_acting (c : Collaborators σ) (config : AuditConfig) {a : Audit} {w : World σ}
    {n : Nat} {calls : List ToolCall} (phase : (stage c config a w n).1.phase = .acting calls)
    {i : Nat} (within : i ≤ calls.length) :
    (stage c config a w (n + i)).1.phase = .acting (calls.drop i) ∧
      (stage c config a w (n + i)).1.steps = (stage c config a w n).1.steps := by
  induction i with
  | zero => exact ⟨phase, rfl⟩
  | succ i ih =>
    obtain ⟨acting, steps⟩ := ih (Nat.le_of_succ_le within)
    rw [List.drop_eq_getElem_cons within] at acting
    obtain ⟨onward, same⟩ := step_acting c config acting (stage c config a w (n + i)).2
    rw [← Nat.add_assoc, stage]
    exact ⟨onward, same.trans steps⟩

section Asking
variable (code : CodeBase) (calls : List ToolCall) (s : Session) (w : World Unit)

theorem mem_of_asking (wants : calls ≠ []) {n : Nat} {call : ToolCall}
    (called : Calls (stage (asking code calls) single (start single s) w n).1 call) :
    call ∈ calls := by
  have within : Within calls (stage (asking code calls) single (start single s) w n).1 := by
    clear called
    induction n with
    | zero => exact fun rest acting => nomatch acting
    | succ n ih => exact step_within code wants single _ _ ih
  obtain ⟨rest, acting⟩ := called
  exact within _ acting call List.mem_cons_self

theorem stage_asking (wants : calls ≠ []) :
    (stage (asking code calls) single (start single s) w 2).1 =
      ⟨{ s with repeatCall := false, history := s.history ++ [.assistant (.ofCalls "" calls)] }, 1,
        .acting calls⟩ := by
  have drawn : (stage (asking code calls) single (start single s) w 1).1 = ⟨s, 0, .reasoning⟩ := rfl
  rw [stage, step_fst, drawn]
  exact advance_asking code wants (by decide) s _

theorem phase_asking (wants : calls ≠ []) {k : Nat} (within : k ≤ calls.length) :
    (stage (asking code calls) single (start single s) w (2 + k)).1.phase =
        .acting (calls.drop k) ∧
      (stage (asking code calls) single (start single s) w (2 + k)).1.steps = 1 := by
  have asked := stage_asking code calls s w wants
  have acting :
      (stage (asking code calls) single (start single s) w 2).1.phase = .acting calls := by
    rw [asked]
  obtain ⟨left, steps⟩ := stage_acting (asking code calls) single acting within
  rw [asked] at steps
  exact ⟨left, steps⟩

theorem calls_asking_iff (wants : calls ≠ []) {n : Nat} (early : n < 2 + calls.length)
    (call : ToolCall) :
    Calls (stage (asking code calls) single (start single s) w n).1 call ↔
      2 ≤ n ∧ calls[n - 2]? = some call := by
  match n with
  | 0 => exact iff_of_false (fun ⟨_, acting⟩ => nomatch acting) (by omega)
  | 1 => exact iff_of_false (fun ⟨_, acting⟩ => nomatch acting) (by omega)
  | k + 2 =>
    have phase := (phase_asking code calls s w wants (k := k) (by omega)).1
    rw [Nat.add_comm] at phase
    have bound : k < calls.length := by omega
    simp only [Calls, phase, List.drop_eq_getElem_cons bound, Phase.acting.injEq,
      List.cons.injEq, Nat.add_sub_cancel, List.getElem?_eq_getElem bound, Option.some.injEq]
    simp [eq_comm]

end Asking

private theorem execute_noop (c : Collaborators σ) (config : AuditConfig) (id : String)
    (s : Session) (w : World σ) :
    (execute c config ⟨id, "noop", .null⟩ s w).1 =
      ("Invoked noop with arguments null failed: unknown action noop", true) := by
  have unread : Action.ofCall ⟨id, "noop", .null⟩ = .error "unknown action noop" := by
    simp [Action.ofCall, Action.argumentsDecoder]
  have described : Action.describe ⟨id, "noop", .null⟩ = "Invoked noop with arguments null" := by
    cbv
  simp only [execute, unread, described]
  decide

theorem calls_carriedOut_once_noop :
    let first : ToolCall := ⟨"t1", "noop", .null⟩
    let second : ToolCall := ⟨"t2", "noop", .null⟩
    let start := start single Service.threeCalls
    let along := stage (asking {} [first, second]) single start { outside := () }
    (∀ n call, Calls (along n).1 call → call.NamedPlainly) ∧
      Calls (along 2).1 first ∧ Calls (along 3).1 second ∧
      ∃ prior isError, prior = "Invoked noop with arguments null failed: unknown action noop" ∧
        Recalled (along 3) (along 4) second prior ∧
        Original (asking {} [first, second]) single start { outside := () } second 2 first prior
          isError := by
  intro first second start along
  have plain : ∀ n call, Calls (along n).1 call → call.NamedPlainly := by
    intro n call called
    have member := mem_of_asking {} _ Service.threeCalls _ (by simp) called
    simp only [List.mem_cons, List.not_mem_nil, or_false] at member
    rcases member with rfl | rfl
    · decide
    · decide
  have calls (n : Nat) (early : n < 4) (call : ToolCall) :=
    calls_asking_iff {} [first, second] Service.threeCalls { outside := () } (by simp) early call
  have firstCalled : Calls (along 2).1 first := (calls 2 (by decide) first).mpr ⟨by decide, rfl⟩
  have secondCalled : Calls (along 3).1 second := (calls 3 (by decide) second).mpr ⟨by decide, rfl⟩
  have once := calls_carriedOut_once (asking {} [first, second]) single Service.threeCalls
    { outside := () }
  obtain ⟨⟨prior, recalled⟩, -⟩ :=
    once.2.2.1 2 3 first second (by decide) firstCalled secondCalled ⟨rfl, rfl⟩
  refine ⟨plain, firstCalled, secondCalled, prior, ?_⟩
  rcases once.2.2.2 plain 3 second prior secondCalled recalled with
    ⟨r, member, -⟩ | ⟨m, early, other, isError, original⟩
  · exact nomatch member
  · obtain ⟨late, listed⟩ := (calls m (by omega) other).mp original.called
    obtain rfl : m = 2 := by omega
    cases Option.some.inj listed
    have result := original.done.result
    rw [execute_noop] at result
    exact ⟨isError, (congrArg Prod.fst result).symm, recalled, original⟩

end PathAudit.Audit
