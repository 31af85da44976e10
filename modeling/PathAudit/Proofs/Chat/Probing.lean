import PathAudit.Proofs.Chat.Discipline

/-! Many calls behind one breaker, a step at a time. A half open breaker lets everyone through that
asks, the retries of the probe included, so the probe stays the only request just as long as nobody
asks. -/
namespace PathAudit

namespace Guard

/-- Where a call stands, with the number of its next retry. -/
inductive Stage where
  | asking (tried : Nat)
  | admitted (tried : Nat)
  | awaiting (tried : Nat)
  | resting (tried : Nat)
  | finished

inductive Act where
  | ask (now : Nat)
  | send
  | hear (reply : Reply) (now : Nat)
  | wake
  | cancel (now : Nat)

/-- A call acts, if that is what it can do next. -/
def act? (p : RetryPolicy) (g : Guard) : Stage → Act → Option (Guard × Stage)
  | .asking tried, .ask now =>
    let (allowed, breaker) := g.breaker.allow p.cooldown now
    some ({ g with breaker }, if allowed then .admitted tried else .finished)
  | .admitted tried, .send => some (g, .awaiting tried)
  | .awaiting _, .hear (.ok _) _ => some ({ g with breaker := .succeeded }, .finished)
  | .awaiting tried, .hear (.error e) now =>
    if e.isRetryable && tried < p.maxRetries then
      some ({ g with retries := g.retries + 1 }, .resting (tried + 1))
    else some ({ g with breaker := g.breaker.failed p.threshold now }, .finished)
  | .resting tried, .wake => some (g, .asking tried)
  | .resting _, .cancel now =>
    some ({ g with breaker := g.breaker.failed p.threshold now }, .finished)
  | _, _ => none

structure Traffic where
  guard : Guard := {}
  calls : List Stage := []

inductive Event where
  | arrival
  | turn (i : Nat) (act : Act)

def Traffic.happen? (p : RetryPolicy) (x : Traffic) : Event → Option Traffic
  | .arrival => some { x with calls := x.calls ++ [.asking 0] }
  | .turn i act => do
    let stage ← x.calls[i]?
    let (guard, stage) ← act? p x.guard stage act
    return ⟨guard, x.calls.set i stage⟩

def Traffic.run? (p : RetryPolicy) (x : Traffic) (events : List Event) : Option Traffic :=
  events.foldlM (Traffic.happen? p) x

def Stage.isAdmitted : Stage → Bool
  | .admitted _ => true
  | _ => false

def Act.isAsk : Act → Bool
  | .ask _ => true
  | _ => false

def Act.isSend : Act → Bool
  | .send => true
  | _ => false

def Event.isAsk : Event → Bool
  | .arrival => false
  | .turn _ act => act.isAsk

def Event.isSend : Event → Bool
  | .arrival => false
  | .turn _ act => act.isSend

/-- The calls that were let through and have not sent their request. -/
def Traffic.unsent (x : Traffic) : Nat := x.calls.countP Stage.isAdmitted

inductive Probing (p : RetryPolicy) : Traffic → List Event → Traffic → Prop
  | nothing {x : Traffic} : Probing p x [] x
  | next {x y z : Traffic} {event : Event} {events : List Event}
      (halfOpen : x.guard.breaker.circuit = .halfOpen) (happened : x.happen? p event = some y)
      (onward : Probing p y events z) : Probing p x (event :: events) z

/-- From the event in which an open breaker becomes half open to the one that settles it. -/
structure Probe (p : RetryPolicy) (before : Traffic) (first : Event) (opening : Traffic)
    (events : List Event) (after : Traffic) : Prop where
  opened : ∃ since, before.guard.breaker.circuit = .opened since
  happened : before.happen? p first = some opening
  halfOpen : opening.guard.breaker.circuit = .halfOpen
  during : Probing p opening events after
  settled : after.guard.breaker.circuit ≠ .halfOpen

section Accounts
variable {p : RetryPolicy} {g next : Guard} {stage later : Stage} {act : Act} {x y z : Traffic}

theorem act_halfOpen (halfOpen : g.breaker.circuit = .halfOpen)
    (acted : act? p g stage act = some (next, later)) :
    later.isAdmitted.toNat + act.isSend.toNat = stage.isAdmitted.toNat + act.isAsk.toNat := by
  unfold act? at acted
  split at acted
  next tried now =>
    have allowed : g.breaker.allow p.cooldown now = (true, g.breaker) := by
      rw [Breaker.allow, halfOpen]
    rw [allowed] at acted
    cases acted
    rfl
  next => cases acted; rfl
  next => cases acted; rfl
  next => split at acted <;> cases acted <;> rfl
  next => cases acted; rfl
  next => cases acted; rfl
  next => contradiction

theorem act_opening {since : Nat} (opened : g.breaker.circuit = .opened since)
    (halfOpen : next.breaker.circuit = .halfOpen)
    (acted : act? p g stage act = some (next, later)) :
    later.isAdmitted.toNat = stage.isAdmitted.toNat + 1 := by
  have still : g.breaker.circuit ≠ .halfOpen := by simp [opened]
  have failed (now : Nat) : (g.breaker.failed p.threshold now).circuit ≠ .halfOpen := by
    simp [Breaker.failed, Breaker.trips, opened]
  unfold act? at acted
  split at acted
  next tried now =>
    rw [Breaker.allow_eq] at acted
    cases cooling : g.breaker.isCooling p.cooldown now with
    | true =>
      rw [cooling] at acted
      cases acted
      exact absurd halfOpen still
    | false =>
      rw [cooling] at acted
      cases acted
      rfl
  next => cases acted; exact absurd halfOpen still
  next => cases acted; contradiction
  next =>
    split at acted
    · cases acted; exact absurd halfOpen still
    · cases acted; exact absurd halfOpen (failed _)
  next => cases acted; exact absurd halfOpen still
  next => cases acted; exact absurd halfOpen (failed _)
  next => contradiction

theorem toNat_eq_ite (b : Bool) : b.toNat = if b then 1 else 0 := by
  cases b <;> rfl

theorem Traffic.happen_turn {i : Nat} (happened : x.happen? p (.turn i act) = some y) :
    ∃ stage later, act? p x.guard stage act = some (y.guard, later) ∧
      y.unsent + stage.isAdmitted.toNat = x.unsent + later.isAdmitted.toNat := by
  unfold happen? at happened
  obtain ⟨stage, found, happened⟩ := Option.bind_eq_some_iff.mp happened
  obtain ⟨⟨next, later⟩, acted, happened⟩ := Option.bind_eq_some_iff.mp happened
  cases happened
  obtain ⟨inside, rfl⟩ := List.getElem?_eq_some_iff.mp found
  refine ⟨_, later, acted, ?_⟩
  have held := List.boole_getElem_le_countP (p := Stage.isAdmitted) inside
  rw [unsent, unsent, List.countP_set inside]
  simp only [toNat_eq_ite]
  omega

theorem Traffic.unsent_halfOpen {event : Event} (halfOpen : x.guard.breaker.circuit = .halfOpen)
    (happened : x.happen? p event = some y) :
    y.unsent + event.isSend.toNat = x.unsent + event.isAsk.toNat := by
  cases event with
  | arrival =>
    cases happened
    simp [unsent, Stage.isAdmitted, Event.isSend, Event.isAsk]
  | turn i act =>
    obtain ⟨stage, later, acted, counted⟩ := happen_turn happened
    have moved := act_halfOpen halfOpen acted
    change y.unsent + act.isSend.toNat = x.unsent + act.isAsk.toNat
    omega

theorem Traffic.unsent_opening {event : Event} {since : Nat}
    (opened : x.guard.breaker.circuit = .opened since)
    (halfOpen : y.guard.breaker.circuit = .halfOpen) (happened : x.happen? p event = some y) :
    y.unsent = x.unsent + 1 := by
  cases event with
  | arrival =>
    cases happened
    simp [opened] at halfOpen
  | turn i act =>
    obtain ⟨stage, later, acted, counted⟩ := happen_turn happened
    have moved := act_opening opened halfOpen acted
    omega

theorem Probing.unsent {events : List Event} (probing : Probing p x events z) :
    z.unsent + events.countP Event.isSend = x.unsent + events.countP Event.isAsk := by
  induction probing with
  | nothing => rfl
  | @next x y z event events halfOpen happened _ ih =>
    have first := Traffic.unsent_halfOpen halfOpen happened
    rw [List.countP_cons, List.countP_cons]
    simp only [toNat_eq_ite] at first
    omega

/-- While the breaker is half open, the requests are the probe's and those of all who ask. So the
probe is the only one exactly when whoever asks then, and whoever was let through before and had not
sent yet, leaves as many requests unsent. -/
theorem probe_alone_iff (p : RetryPolicy) (before opening after : Traffic) (first : Event)
    (events : List Event) (probe : Probe p before first opening events after) :
    after.unsent + events.countP Event.isSend =
      before.unsent + 1 + events.countP Event.isAsk ∧
    (events.countP Event.isSend = 1 ↔
      after.unsent = before.unsent + events.countP Event.isAsk) := by
  obtain ⟨since, opened⟩ := probe.opened
  have admitted := Traffic.unsent_opening opened probe.halfOpen probe.happened
  have counted := probe.during.unsent
  rw [admitted] at counted
  refine ⟨counted, ?_⟩
  omega

end Accounts

def hasty : RetryPolicy where
  maxRetries := 1
  jitter := .zero false
  threshold := 1
  cooldown := 0

def setback : List Event :=
  [.arrival, .turn 0 (.ask 0), .turn 0 .send, .turn 0 (.hear (.error (.authenticationFailed "")) 0),
    .arrival]

def shaken : Traffic := ⟨⟨⟨.opened 0, 1⟩, 0⟩, [.finished, .asking 0]⟩

def testing : Traffic := ⟨⟨⟨.halfOpen, 1⟩, 0⟩, [.finished, .admitted 0]⟩

theorem probe_alone_answered :
    let heard := [.turn 1 .send, .turn 1 (.hear (.ok []) 1)]
    Probe hasty shaken (.turn 1 (.ask 1)) testing heard ⟨{}, [.finished, .finished]⟩ ∧
    heard.countP Event.isSend = 1 := by
  intro heard
  have probe : Probe hasty shaken (.turn 1 (.ask 1)) testing heard ⟨{}, [.finished, .finished]⟩ :=
    ⟨⟨0, rfl⟩, rfl, rfl, .next rfl rfl (.next rfl rfl .nothing), nofun⟩
  have alone := probe_alone_iff hasty shaken testing ⟨{}, [.finished, .finished]⟩
    (.turn 1 (.ask 1)) heard probe
  exact ⟨probe, alone.2.mpr rfl⟩

theorem probe_not_alone : ¬∀ (p : RetryPolicy) (earlier : List Event)
    (before opening after : Traffic) (first : Event) (events : List Event),
    Traffic.run? p {} earlier = some before → Probe p before first opening events after →
      events.countP Event.isSend = 1 := by
  intro alone
  have happened : Traffic.run? hasty {} setback = some shaken := rfl
  have probe : Probe hasty shaken (.turn 1 (.ask 1)) testing
      [.turn 1 .send, .turn 1 (.hear (.error (.serverError 500 "")) 1), .turn 1 .wake,
        .turn 1 (.ask 2), .turn 1 .send, .turn 1 (.hear (.ok []) 2)]
      ⟨⟨{}, 1⟩, [.finished, .finished]⟩ := by
    refine ⟨⟨0, rfl⟩, rfl, rfl, ?_, nofun⟩
    exact .next rfl rfl (.next rfl rfl (.next rfl rfl (.next rfl rfl (.next rfl rfl
      (.next rfl rfl .nothing)))))
  have once := alone hasty setback shaken testing _ _ _ happened probe
  contradiction

section Calls
variable {σ : Type} {t : Timing σ} {p : RetryPolicy} {ask : σ → Reply × σ} {left : Nat}
  {g next : Guard} {s finish : σ} {reply : Reply} {deeds : List Deed}

def Act.heard? : Act → Option Reply
  | .hear reply _ => some reply
  | _ => none

def Deed.heard? : Deed → Option Reply
  | .asked reply => some reply
  | .slept _ => none

def acts? (p : RetryPolicy) (g : Guard) (stage : Stage) (acts : List Act) :
    Option (Guard × Stage) :=
  acts.foldlM (fun x act => act? p x.1 x.2 act) (g, stage)

theorem acts_cons {stage later : Stage} {act : Act}
    (acted : act? p g stage act = some (next, later)) (acts : List Act) :
    acts? p g stage (act :: acts) = acts? p next later acts := by
  unfold acts?
  rw [List.foldlM_cons, acted]
  rfl

theorem acts_sent {now : Nat} (through : g.breaker.isCooling p.cooldown now = false) (tried : Nat)
    (acts : List Act) :
    acts? p g (.asking tried) (.ask now :: .send :: acts) =
      acts? p ⟨g.breaker.admitting, g.retries⟩ (.awaiting tried) acts := by
  have asked : act? p g (.asking tried) (.ask now) =
      some (⟨g.breaker.admitting, g.retries⟩, .admitted tried) := by
    simp only [act?, Breaker.allow_eq, through]
    rfl
  rw [acts_cons asked, acts_cons rfl]

theorem acts_again {e : GatewayError} {tried : Nat} (retryable : e.isRetryable = true)
    (more : tried < p.maxRetries) (now : Nat) (acts : List Act) :
    acts? p g (.awaiting tried) (.hear (.error e) now :: acts) =
      acts? p { g with retries := g.retries + 1 } (.resting (tried + 1)) acts := by
  refine acts_cons ?_ acts
  simp [act?, retryable, more]

/-- A call of its own takes these steps, and hears the same replies. -/
theorem Attempts.acts (attempted : Attempts t p ask left g s reply next finish deeds)
    (within : left ≤ p.maxRetries) : ∃ acts,
    acts? p g (.asking (p.maxRetries - left)) acts = some (next, .finished) ∧
    acts.filterMap Act.heard? = deeds.filterMap Deed.heard? := by
  induction attempted with
  | @refused left g s cooling =>
    refine ⟨[.ask (t.now s)], ?_, rfl⟩
    simp only [acts?, List.foldlM_cons, act?, Breaker.allow_eq, cooling]
    rfl
  | @last left g s after reply through asked final =>
    refine ⟨[.ask (t.now s), .send, .hear reply (t.now after)], ?_, rfl⟩
    rw [acts_sent through]
    cases reply with
    | ok events => rfl
    | error e =>
      have stops : (e.isRetryable && p.maxRetries - left < p.maxRetries) = false := by
        cases retryable : e.isRetryable with
        | false => rfl
        | true =>
          rw [final e rfl retryable]
          exact decide_eq_false (Nat.lt_irrefl _)
      refine (acts_cons ?_ []).trans rfl
      rw [act?, stops]
      rfl
  | @cancelled left g s after e through asked retryable cancelled =>
    refine ⟨[.ask (t.now s), .send, .hear (.error e) (t.now after), .cancel (t.now after)], ?_, rfl⟩
    rw [acts_sent through, acts_again retryable (by omega)]
    rfl
  | @again left g next s after finish e span reply deeds through asked retryable going spell _ ih =>
    obtain ⟨acts, acted, heard⟩ := ih (Nat.le_of_succ_le within)
    have number : p.maxRetries - (left + 1) + 1 = p.maxRetries - left := by omega
    refine ⟨.ask (t.now s) :: .send :: .hear (.error e) (t.now after) :: .wake :: acts, ?_, ?_⟩
    · rw [acts_sent through, acts_again retryable (by omega), acts_cons rfl, number]
      exact acted
    · exact congrArg (Except.error e :: ·) heard

theorem Attempts.asks (attempted : Attempts t p ask left g s reply next finish deeds)
    (through : g.breaker.isCooling p.cooldown (t.now s) = false) :
    0 < deeds.countP Deed.isRequest := by
  cases attempted with
  | refused cooling =>
    rw [through] at cooling
    contradiction
  | last => exact Nat.one_pos
  | cancelled => exact Nat.one_pos
  | again =>
    rw [List.countP_cons_of_pos rfl]
    exact Nat.succ_pos _

theorem Attempts.once_iff (attempted : Attempts t p ask left g s reply next finish deeds)
    (through : g.breaker.isCooling p.cooldown (t.now s) = false) :
    deeds.countP Deed.isRequest = 1 ↔ ∀ e, (ask s).1 = .error e → e.isRetryable = true →
      left = 0 ∨ t.cancelled (ask s).2 = true := by
  cases attempted with
  | refused cooling =>
    rw [through] at cooling
    contradiction
  | last through asked final =>
    rw [asked]
    exact iff_of_true rfl fun e failed retryable => Or.inl (final e failed retryable)
  | cancelled through asked retryable cancelled =>
    rw [asked]
    exact iff_of_true rfl fun _ _ _ => Or.inr cancelled
  | again through asked retryable going spell onward =>
    have more := onward.asks (Breaker.isCooling_admitting ..)
    rw [asked, List.countP_cons_of_pos rfl, List.countP_cons_of_neg Bool.false_ne_true]
    refine iff_of_false (Nat.ne_of_gt (Nat.succ_lt_succ more)) fun once => ?_
    obtain none | cancelled := once _ rfl retryable
    · contradiction
    · rw [going] at cancelled
      contradiction

end Calls

end Guard

end PathAudit
