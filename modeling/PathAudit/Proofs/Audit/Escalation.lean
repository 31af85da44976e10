import PathAudit.Proofs.Audit.Budget
import PathAudit.Proofs.Audit.RepeatedCalls

/-! Who is asked next. The mark that sends a question to the stronger reasoner is set by the calls
of one reply and taken away by the next question, so what the two reasoners are asked can be read
off the replies and how their calls went. -/
namespace PathAudit.Audit
variable {σ : Type}

/-- The call is answered from the conversation, or it cannot be read as an action, or its action
fails. -/
inductive Troubled (c : Collaborators σ) (config : AuditConfig) (before : Audit × World σ)
    (call : ToolCall) : Prop
  | recalled (prior : String)
      (known : priorResult? before.1.session.history (Action.describe call) = some prior)
  | undecodable (reason : String)
      (new : priorResult? before.1.session.history (Action.describe call) = none)
      (unread : Action.ofCall call = .error reason)
  | failed (action : Action)
      (new : priorResult? before.1.session.history (Action.describe call) = none)
      (decoded : Action.ofCall call = .ok action)
      (error :
        (Service.dispatch c config.service before.1.session action before.2).1.isError = true)

structure Asks (along : Nat → Audit × World σ) (n k : Nat) (x : Exchange) : Prop where
  phase : (along n).1.phase = .reasoning
  steps : (along n).1.steps = k
  made : (along (n + 1)).2.exchanges = (along n).2.exchanges ++ [x]

structure Poses (a : Audit) (made : List Exchange) (b : Audit)
    (reply : Except GatewayError AssistantMessage) : Prop where
  phase : a.phase = .reasoning
  made : made = [reasoned a.session reply]
  counted : b.steps = a.steps + 1
  unmarked : b.session.repeatCall = false
  onward : ∀ message, reply = .ok message → message.calls ≠ [] → b.phase = .acting message.calls

section Mark
variable (c : Collaborators σ) (config : AuditConfig)

theorem repeatCall_dispatch (s : Session) (action : Action) (w : World σ) :
    (Service.dispatch c config.service s action w).2.1.repeatCall = s.repeatCall := by
  have ending := Service.dispatch_ending c config.service s action w
  generalize Service.dispatch c config.service s action w = done at ending
  obtain ⟨outcome, after, later⟩ := done
  cases ending <;> rfl

theorem repeatCall_step {a : Audit} {call : ToolCall} (called : Calls a call) (w : World σ) :
    (step c config a w).1.session.repeatCall = true ↔
      a.session.repeatCall = true ∨ Troubled c config (a, w) call := by
  obtain ⟨calls, phase⟩ := called
  have answered : (step c config a w).1.session.repeatCall =
      (respond c config call a.session { w with notices := [] }).2.1.repeatCall := by
    simp only [step_fst, advance, phase]
    rfl
  rw [answered]
  unfold respond
  split
  next prior known => exact iff_of_true rfl (.inr (.recalled prior known))
  next new =>
    unfold execute
    dsimp only
    split
    next reason unread => exact iff_of_true rfl (.inr (.undecodable reason new unread))
    next action decoded =>
      have kept := repeatCall_dispatch c config a.session action { w with notices := [] }
      split
      next error => exact iff_of_true rfl (.inr (.failed action new decoded error))
      next fine =>
        dsimp only
        rw [kept]
        refine (or_iff_left fun troubled => ?_).symm
        cases troubled with
        | recalled prior known => simp [new] at known
        | undecodable reason _ unread => simp [decoded] at unread
        | failed other _ read error =>
          cases Except.ok.inj (decoded.symm.trans read)
          exact fine error

end Mark

section Moves
variable {r : Resolver} {config : AuditConfig} {a b : Audit} {made : List Exchange}

theorem Moves.mark_kept (move : Moves r config a made b) (idle : ∀ call, ¬Calls a call)
    (same : b.steps = a.steps) : b.session.repeatCall = a.session.repeatCall := by
  cases move with
  | act s n call calls => exact absurd ⟨calls, rfl⟩ (idle call)
  | unanswered | propose | request => exact absurd same (Nat.succ_ne_self _)
  | _ => rfl

theorem Moves.poses (move : Moves r config a made b) :
    (∃ reply, Poses a made b reply) ∨
      b.steps = a.steps ∧ questions made = [] ∧
        (a.phase = .reasoning → made = [] ∧ config.maxSteps ≤ a.steps) := by
  cases move with
  | unanswered s n e => exact .inl ⟨.error e, rfl, rfl, rfl, rfl, nofun⟩
  | propose s n reply left final =>
    refine .inl ⟨.ok reply, rfl, rfl, rfl, rfl, fun message replied wants => ?_⟩
    cases replied
    exact absurd final wants
  | request s n reply =>
    refine .inl ⟨.ok reply, rfl, rfl, rfl, rfl, fun message replied wants => ?_⟩
    cases replied
    rfl
  | annotate s n node nodes annotations made findings =>
    exact .inr ⟨rfl, questions_findings findings, nofun⟩
  | act s n call calls text isError after made answer findings =>
    exact .inr ⟨rfl, questions_findings findings, nofun⟩
  | exhaust s n spent => exact .inr ⟨rfl, rfl, fun _ => ⟨rfl, spent⟩⟩
  | _ => exact .inr ⟨rfl, rfl, nofun⟩

theorem Moves.into_acting (move : Moves r config a made b) {calls : List ToolCall}
    (acting : b.phase = .acting calls) :
    (∃ message, Poses a made b (.ok message) ∧ calls = message.calls) ∨
      ∃ call, a.phase = .acting (call :: calls) := by
  cases move with
  | request s n reply left wants =>
    cases acting
    refine .inl ⟨reply, ⟨rfl, rfl, rfl, rfl, fun message replied _ => ?_⟩, rfl⟩
    cases replied
    rfl
  | act s n call rest =>
    cases acting
    exact .inr ⟨call, rfl⟩
  | _ => contradiction

theorem Moves.steps_le (move : Moves r config a made b) : a.steps ≤ b.steps := by
  rcases move.poses with ⟨reply, poses⟩ | ⟨same, -⟩
  · exact poses.counted ▸ Nat.le_succ _
  · exact same.ge

end Moves

section Along
variable (c : Collaborators σ) (config : AuditConfig) (a : Audit) (w : World σ)

theorem stage_steps_le {m n : Nat} (before : m ≤ n) :
    (stage c config a w m).1.steps ≤ (stage c config a w n).1.steps := by
  induction n, before using Nat.le_induction with
  | base => exact Nat.le_refl _
  | succ n before ih =>
    rcases stage_moves c config a w n with same | ⟨made, move, -⟩
    · rwa [same]
    · exact ih.trans (move.steps_le)

theorem repeatCall_next (n : Nat) :
    (stage c config a w (n + 1)).1.session.repeatCall = true ↔
      (stage c config a w n).1.steps = (stage c config a w (n + 1)).1.steps ∧
        ((stage c config a w n).1.session.repeatCall = true ∨
          ∃ call, Calls (stage c config a w n).1 call ∧
            Troubled c config (stage c config a w n) call) := by
  by_cases calling : ∃ call, Calls (stage c config a w n).1 call
  · obtain ⟨call, called⟩ := calling
    have steps : (stage c config a w (n + 1)).1.steps = (stage c config a w n).1.steps := by
      obtain ⟨calls, phase⟩ := called
      exact (step_acting c config phase _).2
    have only : (∃ call, Calls (stage c config a w n).1 call ∧
        Troubled c config (stage c config a w n) call) ↔
        Troubled c config (stage c config a w n) call := by
      refine ⟨?_, fun troubled => ⟨call, called, troubled⟩⟩
      rintro ⟨other, otherCalled, troubled⟩
      exact otherCalled.unique called ▸ troubled
    rw [only, and_iff_right steps.symm]
    exact repeatCall_step c config called _
  · have idle : ∀ call, ¬Calls (stage c config a w n).1 call := not_exists.mp calling
    rw [or_iff_left fun ⟨call, called, _⟩ => idle call called]
    rcases stage_moves c config a w n with same | ⟨made, move, -⟩
    · simp [same]
    · rcases move.poses with ⟨reply, poses⟩ | ⟨same, -⟩
      · simp [poses.unmarked, poses.counted]
      · rw [move.mark_kept idle same, and_iff_right same.symm]

theorem repeatCall_stage (fresh : a.session.repeatCall = false) (n : Nat) :
    (stage c config a w n).1.session.repeatCall = true ↔
      ∃ m < n, (stage c config a w m).1.steps = (stage c config a w n).1.steps ∧
        ∃ call, Calls (stage c config a w m).1 call ∧
          Troubled c config (stage c config a w m) call := by
  induction n with
  | zero => simp [stage, fresh]
  | succ n ih =>
    rw [repeatCall_next, ih, Nat.exists_lt_succ_right]
    by_cases same : (stage c config a w n).1.steps = (stage c config a w (n + 1)).1.steps
    · simp only [same, true_and]
    · refine iff_of_false (fun held => same held.1) ?_
      rintro (⟨m, before, equal, -⟩ | ⟨equal, -⟩)
      · have grown := stage_steps_le c config a w before.le
        rw [equal] at grown
        exact same (Nat.le_antisymm (stage_steps_le c config a w (Nat.le_succ n)) grown)
      · exact same equal

section Questions
variable {c config a w} {m n k : Nat} {x y : Exchange}

theorem Asks.poses (asks : Asks (stage c config a w) n k x) :
    ∃ reply, x = reasoned (stage c config a w n).1.session reply ∧
      Poses (stage c config a w n).1 [x] (stage c config a w (n + 1)).1 reply := by
  have running : (stage c config a w n).1.result? = none := by rw [result?, asks.phase]
  obtain ⟨more, move, grown⟩ := step_moves c config _ (stage c config a w n).2 running
  have same : more = [x] := List.append_cancel_left (grown.symm.trans asks.made)
  subst same
  rcases move.poses with ⟨reply, poses⟩ | ⟨-, -, none⟩
  · exact ⟨reply, (List.cons.inj poses.made).1, poses⟩
  · exact absurd (none asks.phase).1 (List.cons_ne_nil x [])

theorem asks_iff {made : List Exchange} {reply : Except GatewayError AssistantMessage}
    (poses : Poses (stage c config a w n).1 made (stage c config a w (n + 1)).1 reply)
    (grown :
      (stage c config a w (n + 1)).2.exchanges = (stage c config a w n).2.exchanges ++ made) :
    Asks (stage c config a w) n k x ↔
      k = (stage c config a w n).1.steps ∧ x = reasoned (stage c config a w n).1.session reply := by
  rw [poses.made] at grown
  constructor
  · rintro ⟨-, steps, asked⟩
    exact ⟨steps.symm, (List.cons.inj (List.append_cancel_left (asked.symm.trans grown))).1⟩
  · rintro ⟨rfl, rfl⟩
    exact ⟨poses.phase, rfl, grown⟩

theorem exists_asks (phase : (stage c config a w n).1.phase = .reasoning)
    (left : (stage c config a w n).1.steps < config.maxSteps) :
    ∃ x, Asks (stage c config a w) n (stage c config a w n).1.steps x := by
  have running : (stage c config a w n).1.result? = none := by rw [result?, phase]
  obtain ⟨made, move, grown⟩ := step_moves c config _ (stage c config a w n).2 running
  rcases move.poses with ⟨reply, poses⟩ | ⟨-, -, spent⟩
  · exact ⟨_, (asks_iff poses grown).mpr ⟨rfl, rfl⟩⟩
  · exact absurd left (Nat.not_lt_of_le (spent phase).2)

theorem Asks.counted (asks : Asks (stage c config a w) n k x) :
    (stage c config a w (n + 1)).1.steps = k + 1 := by
  obtain ⟨reply, -, poses⟩ := asks.poses
  rw [poses.counted, asks.steps]

theorem Asks.acting (asks : Asks (stage c config a w) n k x) {reply : AssistantMessage}
    (replied : x.reply = .ok reply) (wants : reply.calls ≠ []) :
    (stage c config a w (n + 1)).1.phase = .acting reply.calls := by
  obtain ⟨_, rfl, poses⟩ := asks.poses
  exact poses.onward reply replied wants

theorem Asks.calls (asks : Asks (stage c config a w) n k x) {reply : AssistantMessage}
    (replied : x.reply = .ok reply) {i : Nat} {call : ToolCall}
    (listed : reply.calls[i]? = some call) :
    Calls (stage c config a w (n + 1 + i)).1 call ∧
      (stage c config a w (n + 1 + i)).1.steps = k + 1 := by
  obtain ⟨within, held⟩ := List.getElem?_eq_some_iff.mp listed
  have acting := asks.acting replied (List.ne_nil_of_length_pos (Nat.zero_lt_of_lt within))
  obtain ⟨phase, steps⟩ := stage_acting c config acting within.le
  rw [List.drop_eq_getElem_cons within, held] at phase
  exact ⟨⟨_, phase⟩, steps.trans asks.counted⟩

theorem Asks.calls_before (asks : Asks (stage c config a w) m k x) {reply : AssistantMessage}
    (replied : x.reply = .ok reply) {i : Nat} (within : i < reply.calls.length)
    (next : Asks (stage c config a w) n (k + 1) y) : m + 1 + i < n := by
  have acting := asks.acting replied (List.ne_nil_of_length_pos (Nat.zero_lt_of_lt within))
  have after : m + 1 ≤ n := by
    by_contra early
    have grown := stage_steps_le c config a w (Nat.le_of_not_lt early)
    rw [asks.steps, next.steps] at grown
    exact Nat.not_succ_le_self k grown
  obtain ⟨j, rfl⟩ := Nat.exists_eq_add_of_le after
  by_contra early
  have few : j ≤ reply.calls.length := by omega
  have still := (stage_acting c config acting few).1
  rw [next.phase] at still
  contradiction

theorem asks_of_acting (opening : ∀ calls, a.phase ≠ .acting calls) {calls : List ToolCall}
    (acting : (stage c config a w n).1.phase = .acting calls) :
    ∃ m i k x reply, n = m + 1 + i ∧ Asks (stage c config a w) m k x ∧
      x.reply = .ok reply ∧ calls = reply.calls.drop i := by
  induction n generalizing calls with
  | zero => exact absurd acting (opening calls)
  | succ n ih =>
    cases status : (stage c config a w n).1.result? with
    | some result =>
      rw [stage, step_finished c config status, phase_of_result? status] at acting
      contradiction
    | none =>
      obtain ⟨made, move, grown⟩ := step_moves c config _ (stage c config a w n).2 status
      rcases move.into_acting acting with ⟨message, poses, rfl⟩ | ⟨call, before⟩
      · exact ⟨n, 0, _, _, message, rfl, (asks_iff poses grown).mpr ⟨rfl, rfl⟩, rfl, rfl⟩
      · obtain ⟨m, i, k, x, reply, rfl, asks, replied, left⟩ := ih before
        refine ⟨m, i + 1, k, x, reply, rfl, asks, replied, ?_⟩
        rw [← List.drop_drop, ← left]
        rfl

variable (c config a w) in
theorem questions_stage (idle : a.steps = 0) (n : Nat) :
    ∃ made, (stage c config a w n).2.exchanges = w.exchanges ++ made ∧
      (questions made).length = (stage c config a w n).1.steps ∧
      ∀ k x, (questions made)[k]? = some x ↔ ∃ m < n, Asks (stage c config a w) m k x := by
  induction n with
  | zero => exact ⟨[], by simp [stage], by simp [stage, idle, questions], by simp [questions]⟩
  | succ n ih =>
    obtain ⟨made, grown, counted, listed⟩ := ih
    have quiet (same : (stage c config a w (n + 1)).1.steps = (stage c config a w n).1.steps)
        (k : Nat) (x : Exchange) : ¬Asks (stage c config a w) n k x := fun asks => by
      rw [asks.counted, asks.steps] at same
      exact Nat.succ_ne_self k same
    simp only [Nat.exists_lt_succ_right, ← listed]
    rcases stage_moves c config a w n with same | ⟨more, move, grownOn⟩
    · rw [same] at quiet ⊢
      exact ⟨made, grown, counted, fun k x => by simp [quiet rfl]⟩
    refine ⟨made ++ more, by rw [grownOn, grown, List.append_assoc], ?_⟩
    rw [questions_append]
    rcases move.poses with ⟨reply, poses⟩ | ⟨same, none, -⟩
    · simp only [asks_iff poses grownOn, ← counted]
      rw [poses.made, questions_reasoned, poses.counted]
      refine ⟨by rw [List.length_append, counted, List.length_singleton], fun k x => ?_⟩
      rcases Nat.lt_trichotomy k (questions made).length with early | rfl | late
      · simp [List.getElem?_append_left early, early.ne]
      · simp [eq_comm]
      · simp [List.getElem?_append_right late.le, late.le, late.ne', Nat.sub_ne_zero_of_lt late]
    · rw [none, List.append_nil, same]
      exact ⟨counted, fun k x => by simp [quiet same]⟩

end Questions

end Along

/-- One of the calls in the reply to question `k` was troubled. -/
def Flagged (c : Collaborators σ) (config : AuditConfig) (along : Nat → Audit × World σ) (k : Nat) :
    Prop :=
  ∃ n x reply i call, Asks along n k x ∧ x.reply = .ok reply ∧ reply.calls[i]? = some call ∧
    Troubled c config (along (n + 1 + i)) call

section Escalation
variable {c : Collaborators σ} {config : AuditConfig} {a : Audit} {w : World σ}

theorem Asks.role (fresh : a.session.repeatCall = false)
    (opening : ∀ calls, a.phase ≠ .acting calls) {n k : Nat} {x : Exchange}
    (asks : Asks (stage c config a w) n k x) :
    (x.role = .instruct ∨ x.role = .think) ∧
      (x.role = .think ↔ ∃ j, k = j + 1 ∧ Flagged c config (stage c config a w) j) := by
  obtain ⟨reply, whole, -⟩ := asks.poses
  have marked : x.role = .think ↔ (stage c config a w n).1.session.repeatCall = true := by
    rw [whole]
    unfold reasoned reasoner
    split
    next set => simp [set]
    next unset => simp [unset]
  refine ⟨?_, ?_⟩
  · rw [whole]
    unfold reasoned reasoner
    split
    · exact .inr rfl
    · exact .inl rfl
  rw [marked, repeatCall_stage c config a w fresh, asks.steps]
  constructor
  · rintro ⟨m, -, steps, call, ⟨calls, acting⟩, troubled⟩
    obtain ⟨m, i, j, y, answer, rfl, asked, replied, left⟩ := asks_of_acting opening acting
    have listed : answer.calls[i]? = some call := by
      rw [← List.head?_drop, ← left]
      rfl
    refine ⟨j, ?_, m, y, answer, i, call, asked, replied, listed, troubled⟩
    rw [← steps]
    exact (asked.calls replied listed).2
  · rintro ⟨j, rfl, m, y, answer, i, call, asked, replied, listed, troubled⟩
    obtain ⟨called, steps⟩ := asked.calls replied listed
    have within := (List.getElem?_eq_some_iff.mp listed).choose
    exact ⟨m + 1 + i, asked.calls_before replied within asks, steps, call, called, troubled⟩

end Escalation

/-- The stronger reasoner is asked the questions that come directly after a troubled call and no
others. The calls of a reply are made one after the other before the next question, so what counts
is the reply to the question before: each question after the first goes to the stronger reasoner
when one of that reply's calls was answered from the conversation, could not be read or failed. A
judgment that is rejected has no calls and leads back to the weaker one. -/
theorem escalates_iff (c : Collaborators σ) (config : AuditConfig) (s : Session) (w : World σ)
    (fresh : s.repeatCall = false) :
    let along := stage c config (start config s) w
    let ended := run c config (start config s) w
    (∀ n k x reply i call, Asks along n k x → x.reply = .ok reply → reply.calls[i]? = some call →
      Calls (along (n + 1 + i)).1 call) ∧
    ∃ made, ended.2.2.exchanges = w.exchanges ++ made ∧
      (∀ k x, (questions made)[k]? = some x ↔ ∃ n, Asks along n k x) ∧
      (∀ k x, (questions made)[k]? = some x → (x.role = .instruct ∨ x.role = .think) ∧
        (x.role = .think ↔ ∃ j, k = j + 1 ∧ Flagged c config along j)) ∧
      ∀ k x y reply, (questions made)[k]? = some x → x.reply = .ok reply → reply.calls = [] →
        (questions made)[k + 1]? = some y → y.role = .instruct := by
  intro along ended
  have opening : ∀ calls, (start config s).phase ≠ .acting calls := by
    intro calls
    unfold start
    split <;> simp
  have opened : (start config s).session.repeatCall = false := fresh
  obtain ⟨last, ends⟩ := run_endsAt c config (start config s) w
  obtain ⟨made, grown, -, listed⟩ := questions_stage c config (start config s) w rfl last
  have all (k : Nat) (x : Exchange) : (questions made)[k]? = some x ↔ ∃ n, Asks along n k x := by
    rw [listed]
    refine ⟨fun ⟨n, _, asks⟩ => ⟨n, asks⟩, fun ⟨n, asks⟩ => ⟨n, ?_, asks⟩⟩
    by_contra late
    have phase : (stage c config (start config s) w n).1.phase = .reasoning := asks.phase
    rw [ends.stage_late (Nat.le_of_not_lt late), ends.phase] at phase
    contradiction
  refine ⟨fun n k x reply i call asks replied listed => (asks.calls replied listed).1, made,
    ?_, all, ?_, ?_⟩
  · rw [ends.world, grown]
  · intro k x asked
    obtain ⟨n, asks⟩ := (all k x).mp asked
    exact asks.role opened opening
  · intro k x y reply asked replied final next
    obtain ⟨m, later⟩ := (all (k + 1) y).mp next
    obtain ⟨either, think⟩ := later.role opened opening
    refine either.resolve_right fun stronger => ?_
    obtain ⟨j, number, n, other, answer, i, call, asks, answered, listed, -⟩ := think.mp stronger
    obtain rfl : j = k := (Nat.succ.inj number).symm
    have same : x = other := Option.some.inj (asked.symm.trans ((all j other).mpr ⟨n, asks⟩))
    rw [same, answered] at replied
    cases replied
    rw [final] at listed
    contradiction

def twice : AuditConfig := { maxSteps := 2, annotateOnStart := false }

theorem escalates_after_noop :
    let noop : ToolCall := ⟨"t1", "noop", .null⟩
    let along := stage (asking {} [noop]) twice (start twice Service.threeCalls) { outside := () }
    Service.threeCalls.repeatCall = false ∧ ∃ first second,
      Asks along 1 0 first ∧ first.role = .instruct ∧ Asks along 4 1 second ∧
        second.role = .think := by
  intro noop along
  have fresh : Service.threeCalls.repeatCall = false := rfl
  have opening : ∀ calls, (start twice Service.threeCalls).phase ≠ .acting calls := by
    intro calls acting
    contradiction
  have acting : (along 2).1.phase = .acting [noop] := rfl
  have again : (along 4).1.phase = .reasoning := rfl
  have troubled : Troubled (asking {} [noop]) twice (along 2) noop := by
    refine .undecodable "unknown action noop" rfl ?_
    simp [noop, Action.ofCall, Action.argumentsDecoder]
  obtain ⟨m, i, k, first, reply, place, asks, replied, left⟩ := asks_of_acting opening acting
  obtain ⟨rfl, rfl⟩ : m = 1 ∧ i = 0 := by
    rcases m with _ | m
    · have phase : Phase.drawing = .reasoning := asks.phase
      contradiction
    · omega
  obtain rfl : k = 0 := asks.steps.symm
  obtain ⟨second, asksAgain⟩ := exists_asks again (by decide)
  obtain ⟨-, made, -, listed, named, -⟩ := escalates_iff (asking {} [noop]) twice Service.threeCalls
    { outside := () } fresh
  obtain ⟨either, think⟩ := named 0 first ((listed 0 first).mpr ⟨1, asks⟩)
  refine ⟨fresh, first, second, asks, either.resolve_right fun stronger => ?_, asksAgain, ?_⟩
  · obtain ⟨j, none, -⟩ := think.mp stronger
    contradiction
  · have listedCall : reply.calls[0]? = some noop := by
      rw [← List.head?_drop, ← left]
      rfl
    refine (named 1 second ((listed 1 second).mpr ⟨4, asksAgain⟩)).2.mpr ⟨0, rfl, ?_⟩
    exact ⟨1, first, reply, 0, noop, asks, replied, listedCall, troubled⟩

end PathAudit.Audit
