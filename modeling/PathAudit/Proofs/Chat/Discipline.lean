import PathAudit.Number.Total
import PathAudit.Proofs.Chat.Attempts

/-! Calls one after the other. What links them is the breaker: it counts the calls that were given
up since the last one that succeeded, and between two calls it is closed while these are fewer than
the threshold and open from then on. -/
namespace PathAudit

/-- Chance has no say in the waits: the fraction it may add or take is not above zero. -/
def RetryPolicy.Certain (p : RetryPolicy) : Prop := (p.jitter.negative || p.jitter.isZero) = true

def RetryPolicy.pause (p : RetryPolicy) (i : Nat) (e : GatewayError) : Nat :=
  min (e.suggestedDelay.getD (p.baseDelay * Nat.pow 2 (min i 16))) p.maxDelay

theorem RetryPolicy.waits_eq {p : RetryPolicy} (certain : p.Certain) (i : Nat) (e : GatewayError) :
    p.waits i e.suggestedDelay = .point (p.pause i e) := by
  unfold waits pause
  cases e.suggestedDelay with
  | some hint => rfl
  | none =>
    exact if_pos certain

namespace Guard
variable {σ : Type}

/-- A call, as it found the guard and the world and as it left them. -/
structure Call (σ : Type) where
  found : Guard
  start : σ
  reply : Reply
  left : Guard
  finish : σ
  deeds : List Deed

def Deed.isRequest : Deed → Bool
  | .asked _ => true
  | .slept _ => false

namespace Call

def requests (c : Call σ) : Nat := c.deeds.countP Deed.isRequest

def hasAsked (c : Call σ) : Bool := 0 < c.requests

def succeeded (c : Call σ) : Bool := c.reply.toBool

def gaveUp (c : Call σ) : Bool := c.hasAsked && !c.succeeded

end Call

/-- The calls given up since the last one that succeeded. -/
def strikes (calls : List (Call σ)) : Nat :=
  (calls.reverse.takeWhile fun c => !c.succeeded).countP Call.gaveUp

theorem strikes_append (calls : List (Call σ)) (c : Call σ) :
    strikes (calls ++ [c]) =
      if c.succeeded then 0 else strikes calls + if c.gaveUp then 1 else 0 := by
  unfold strikes
  rw [List.reverse_append, List.reverse_singleton, List.singleton_append, List.takeWhile_cons]
  cases c.succeeded with
  | true => rfl
  | false => simp [List.countP_cons]

section Sequences
variable (t : Timing σ) (p : RetryPolicy) (model : String)

def call (ask : σ → Reply × σ) (g : Guard) (s : σ) : Call σ :=
  let (reply, left, finish, _) := stream t p model ask g s
  let (_, _, (_, deeds), _) := stream t.noting p model (noting ask) g (s, [])
  ⟨g, s, reply, left, finish, deeds⟩

/-- Calls made one after the other, and the guard after them. Each call finds the guard as the one
before has left it; the world may have become any other in between. -/
inductive Calls : List (Call σ) → Guard → Prop
  | nothing : Calls [] {}
  | next {calls : List (Call σ)} {g : Guard} (earlier : Calls calls g) (ask : σ → Reply × σ)
      (s : σ) :
      Calls (calls ++ [call t p model ask g s]) (call t p model ask g s).left

end Sequences

/-- Errors that were asked again, the first of them before retry number `i`. A wait that is too long
for the clock is cut short. -/
def retried (p : RetryPolicy) : Nat → List GatewayError → List Deed
  | _, [] => []
  | i, e :: rest =>
    .asked (.error e) :: .slept (min (p.pause i e) Span.longest) :: retried p (i + 1) rest

/-- Requests that were let through: some that failed in a way that may be asked again, and a last
one, which opened, is final or leaves no retries. -/
structure Course (left : Nat) (failures : List GatewayError) (last : Reply) : Prop where
  within : failures.length ≤ left
  retryable : ∀ e ∈ failures, e.isRetryable = true
  decisive : ∀ e, last = .error e → e.isRetryable = true → failures.length = left

theorem countP_retried (p : RetryPolicy) (i : Nat) (failures : List GatewayError) :
    (retried p i failures).countP Deed.isRequest = failures.length := by
  induction failures generalizing i with
  | nil => rfl
  | cons e failures ih => simp [retried, List.countP_cons, Deed.isRequest, ih]

namespace Call

def through (p : RetryPolicy) (g : Guard) (s finish : σ) (now : Nat) (failures : List GatewayError)
    (last : Reply) : Call σ where
  found := g
  start := s
  reply := last
  left := ⟨g.breaker.admitting.settle now p.threshold last, g.retries + failures.length⟩
  finish := finish
  deeds := retried p 0 failures ++ [.asked last]

section Through
variable (p : RetryPolicy) (g : Guard) (s finish : σ) (now : Nat) (failures : List GatewayError)
  (last : Reply)

theorem requests_through : (through p g s finish now failures last).requests =
    failures.length + 1 := by
  have one : [Deed.asked last].countP Deed.isRequest = 1 := rfl
  rw [requests, through, List.countP_append, countP_retried, one]

theorem hasAsked_through : (through p g s finish now failures last).hasAsked = true := by
  rw [hasAsked, requests_through]
  exact decide_eq_true (Nat.succ_pos _)

theorem gaveUp_through : (through p g s finish now failures last).gaveUp = !last.toBool := by
  rw [gaveUp, hasAsked_through, Bool.true_and]
  rfl

end Through

end Call

section Calls
variable {t : Timing σ} {p : RetryPolicy} {ask : σ → Reply × σ} {left : Nat} {g next : Guard}
  {s finish : σ} {last : Reply} {deeds : List Deed}

theorem Attempts.course (attempted : Attempts t p ask left g s last next finish deeds)
    (patient : ∀ s, t.cancelled s = false) (within : left ≤ p.maxRetries)
    (through : g.breaker.isCooling p.cooldown (t.now s) = false) :
    ∃ failures, Course left failures last ∧
      deeds.filter Deed.isRequest = failures.map (.asked <| .error ·) ++ [.asked last] ∧
      (p.Certain → deeds = retried p (p.maxRetries - left) failures ++ [.asked last]) ∧
      next = ⟨g.breaker.admitting.settle (t.now finish) p.threshold last,
        g.retries + failures.length⟩ := by
  induction attempted with
  | refused cooling =>
    rw [through] at cooling
    contradiction
  | last through asked final =>
    refine ⟨[], ⟨Nat.zero_le _, List.forall_mem_nil _, ?_⟩, rfl, fun _ => rfl, rfl⟩
    intro e failed retryable
    exact (final e failed retryable).symm
  | @cancelled left g s after e through asked retryable cancelled =>
    rw [patient after] at cancelled
    contradiction
  | @again left g next s after finish e span last deeds through asked retryable going spell _ ih =>
    obtain ⟨failures, course, requests, done, same⟩ := ih (Nat.le_of_succ_le within)
      (Breaker.isCooling_admitting ..)
    refine ⟨e :: failures, ⟨?_, ?_, ?_⟩, ?_, fun certain => ?_, ?_⟩
    · exact Nat.succ_le_succ course.within
    · exact List.forall_mem_cons.mpr ⟨retryable, course.retryable⟩
    · exact fun f failed again => congrArg Nat.succ (course.decisive f failed again)
    · rw [List.map_cons, List.cons_append, ← requests]
      rfl
    · have number : p.maxRetries - (left + 1) + 1 = p.maxRetries - left := by omega
      rw [RetryPolicy.waits_eq certain, Band.pick_point] at spell
      rw [done certain, spell, retried, number]
      rfl
    · rw [same, Breaker.admitting_admitting, List.length_cons, Nat.add_comm failures.length,
        Nat.add_assoc]

theorem call_attempts (t : Timing σ) (p : RetryPolicy) (model : String) (ask : σ → Reply × σ)
    (g : Guard) (s : σ) :
    Attempts t p ask p.maxRetries g s (call t p model ask g s).reply (call t p model ask g s).left
      (call t p model ask g s).finish (call t p model ask g s).deeds := by
  obtain ⟨reply, next, finish, deeds, attempted⟩ := exists_attempts t p ask p.maxRetries g s
  obtain ⟨told, plain⟩ := attempted.plain model
  obtain ⟨toldNoted, noted⟩ := attempted.noted model []
  unfold call stream
  rw [plain, noted]
  exact attempted

theorem call_refused (model : String) (ask : σ → Reply × σ)
    (cooling : g.breaker.isCooling p.cooldown (t.now s) = true) :
    call t p model ask g s = ⟨g, s, .error .providerOverloaded, g, s, []⟩ := by
  unfold call stream
  rw [attempts_refused t p model ask cooling,
    attempts_refused t.noting p model (noting ask) (s := (s, [])) cooling]

theorem call_admitted (model : String) (ask : σ → Reply × σ) (certain : p.Certain)
    (patient : ∀ s, t.cancelled s = false)
    (through : g.breaker.isCooling p.cooldown (t.now s) = false) :
    ∃ failures last finish, Course p.maxRetries failures last ∧
      call t p model ask g s = .through p g s finish (t.now finish) failures last := by
  obtain ⟨failures, course, -, done, left⟩ := (call_attempts t p model ask g s).course patient
    (Nat.le_refl p.maxRetries) through
  have deeds := done certain
  rw [Nat.sub_self] at deeds
  refine ⟨failures, (call t p model ask g s).reply, (call t p model ask g s).finish, course, ?_⟩
  rw [Call.through, ← deeds, ← left]
  rfl

end Calls

structure Standing (p : RetryPolicy) (calls : List (Call σ)) (g : Guard) : Prop where
  retries : g.retries + calls.countP Call.hasAsked = total Call.requests calls
  failures : g.breaker.failures = strikes calls
  closed : strikes calls < max p.threshold 1 → g.breaker.circuit = .closed
  opened : max p.threshold 1 ≤ strikes calls → ∃ since, g.breaker.circuit = .opened since

section Standing
variable {t : Timing σ} {p : RetryPolicy} {model : String} {calls : List (Call σ)} {g : Guard}

theorem Standing.circuit_failed (standing : Standing p calls g) (now : Nat) :
    (g.breaker.admitting.failed p.threshold now).circuit =
      if strikes calls + 1 < max p.threshold 1 then .closed else .opened now := by
  by_cases few : strikes calls < max p.threshold 1
  · have closed := standing.closed few
    have through : g.breaker.admitting = g.breaker := by rw [Breaker.admitting, closed]
    have trips : g.breaker.trips p.threshold = decide (max p.threshold 1 ≤ strikes calls + 1) := by
      rw [Breaker.trips, closed, standing.failures]
    rw [through, Breaker.failed, trips]
    by_cases more : strikes calls + 1 < max p.threshold 1
    · simp [more, Nat.not_le_of_lt more, closed]
    · simp [more, Nat.le_of_not_lt more]
  · obtain ⟨since, opened⟩ := standing.opened (Nat.le_of_not_lt few)
    have probing : g.breaker.admitting.circuit = .halfOpen := by rw [Breaker.admitting, opened]
    have trips : g.breaker.admitting.trips p.threshold = true := by rw [Breaker.trips, probing]
    have more : ¬strikes calls + 1 < max p.threshold 1 := fun less => few (Nat.lt_of_succ_lt less)
    rw [Breaker.failed, if_pos trips, if_neg more]

theorem Standing.refused (standing : Standing p calls g) (s : σ) :
    Standing p (calls ++ [⟨g, s, .error .providerOverloaded, g, s, []⟩]) g := by
  have same : strikes (calls ++ [⟨g, s, .error .providerOverloaded, g, s, []⟩]) = strikes calls :=
    strikes_append calls _
  obtain ⟨retries, failures, closed, opened⟩ := standing
  rw [← same] at failures closed opened
  refine ⟨?_, failures, closed, opened⟩
  simpa [Call.hasAsked, Call.requests] using retries

theorem Standing.admitted (standing : Standing p calls g) (s finish : σ) (now : Nat)
    (failures : List GatewayError) (last : Reply) :
    Standing p (calls ++ [.through p g s finish now failures last])
      (Call.through p g s finish now failures last).left := by
  have counted : g.retries + failures.length +
      (calls ++ [Call.through p g s finish now failures last]).countP Call.hasAsked =
      total Call.requests (calls ++ [Call.through p g s finish now failures last]) := by
    have earlier := standing.retries
    have asked := Call.hasAsked_through p g s finish now failures last
    rw [total_append, total_cons, total_nil, Call.requests_through, List.countP_append,
      List.countP_singleton, if_pos asked]
    omega
  have grown := strikes_append calls (Call.through p g s finish now failures last)
  rw [Call.gaveUp_through] at grown
  cases last with
  | ok events =>
    have none : strikes (calls ++ [Call.through p g s finish now failures (.ok events)]) = 0 :=
      grown
    refine ⟨counted, none.symm, fun _ => rfl, fun many => ?_⟩
    rw [none] at many
    exact absurd (Nat.le_trans (Nat.le_max_right _ _) many) (Nat.not_succ_le_zero 0)
  | error e =>
    have more : strikes (calls ++ [Call.through p g s finish now failures (.error e)]) =
        strikes calls + 1 := grown
    have circuit := standing.circuit_failed now
    refine ⟨counted, ?_, fun few => ?_, fun many => ?_⟩
    · rw [more, ← standing.failures, ← g.breaker.failures_admitting]
      rfl
    · rw [more] at few
      exact circuit.trans (if_pos few)
    · rw [more] at many
      exact ⟨now, circuit.trans (if_neg (Nat.not_lt_of_le many))⟩

theorem Calls.standing (certain : p.Certain)
    (patient : ∀ s, t.cancelled s = false) (made : Calls t p model calls g) :
    Standing p calls g := by
  induction made with
  | nothing =>
    refine ⟨rfl, rfl, fun _ => rfl, fun many => ?_⟩
    exact absurd (Nat.le_trans (Nat.le_max_right _ _) many) (Nat.not_succ_le_zero 0)
  | @next calls g earlier ask s ih =>
    cases cooling : g.breaker.isCooling p.cooldown (t.now s) with
    | true =>
      rw [call_refused model ask cooling]
      exact ih.refused s
    | false =>
      obtain ⟨failures, last, finish, course, made⟩ :=
        call_admitted model ask certain patient cooling
      rw [made]
      exact ih.admitted s finish (t.now finish) failures last

/-- Of calls made one after the other, whatever the service answers and however time goes on
between them, each is refused while the breaker is open and has not cooled down, and then nothing
happens; otherwise it asks anew only after errors that may be asked again, as often as the policy
allows, with the waits the policy has for them, and returns what it was told last. The retries are
the requests beyond the first of each call. The breaker is closed while fewer calls than the
threshold were given up since the last success, and otherwise open. -/
theorem calls_disciplined (t : Timing σ) (p : RetryPolicy) (model : String) (certain : p.Certain)
    (patient : ∀ s, t.cancelled s = false) (calls : List (Call σ)) (g : Guard)
    (made : Calls t p model calls g) :
    g.retries + calls.countP Call.hasAsked = total Call.requests calls ∧
    (∀ i e, p.waits i e.suggestedDelay = .point (p.pause i e)) ∧
    (g.breaker.circuit = .closed ∧ strikes calls < max p.threshold 1 ∨
      (∃ since, g.breaker.circuit = .opened since) ∧ max p.threshold 1 ≤ strikes calls) ∧
    ∀ ask s, let c := call t p model ask g s
      ((∃ since, g.breaker.circuit = .opened since ∧ t.now s - since < p.cooldown) →
        c.reply = .error .providerOverloaded ∧ c.deeds = [] ∧ c.left = g ∧ c.finish = s) ∧
      ((∀ since, g.breaker.circuit = .opened since → p.cooldown ≤ t.now s - since) →
        ∃ failures last, c.deeds = retried p 0 failures ++ [.asked last] ∧ c.reply = last ∧
          failures.length ≤ p.maxRetries ∧ c.requests = failures.length + 1 ∧
          (∀ e ∈ failures, e.isRetryable = true) ∧
          (∀ e, last = .error e → e.isRetryable = true → failures.length = p.maxRetries) ∧
          (∀ events, last = .ok events → c.left.breaker.circuit = .closed) ∧
          (∀ e, last = .error e → c.left.breaker.circuit =
            if g.breaker.circuit = .closed ∧ strikes (calls ++ [c]) < max p.threshold 1 then .closed
            else .opened (t.now c.finish))) := by
  have standing := made.standing certain patient
  refine ⟨standing.retries, RetryPolicy.waits_eq certain, ?_, fun ask s => ⟨?_, ?_⟩⟩
  · by_cases few : strikes calls < max p.threshold 1
    · exact Or.inl ⟨standing.closed few, few⟩
    · have many := Nat.le_of_not_lt few
      exact Or.inr ⟨standing.opened many, many⟩
  · rintro ⟨since, opened, early⟩
    have cooling : g.breaker.isCooling p.cooldown (t.now s) = true := by
      simp [Breaker.isCooling, opened, early]
    rw [call_refused model ask cooling]
    exact ⟨rfl, rfl, rfl, rfl⟩
  · intro cooled
    have through : g.breaker.isCooling p.cooldown (t.now s) = false := by
      unfold Breaker.isCooling
      split
      next since opened => exact decide_eq_false (Nat.not_lt_of_le (cooled since opened))
      next => rfl
    obtain ⟨failures, last, finish, course, same⟩ :=
      call_admitted model ask certain patient through
    have grown := strikes_append calls (call t p model ask g s)
    rw [same] at grown ⊢
    rw [Call.gaveUp_through] at grown
    refine ⟨failures, last, rfl, rfl, course.within, Call.requests_through .., course.retryable,
      course.decisive, ?_, ?_⟩
    · rintro events rfl
      rfl
    · rintro e rfl
      have more :
          strikes (calls ++ [Call.through p g s finish (t.now finish) failures (.error e)]) =
            strikes calls + 1 := grown
      have known : g.breaker.circuit = .closed ∧ strikes calls + 1 < max p.threshold 1 ↔
          strikes calls + 1 < max p.threshold 1 :=
        and_iff_right_of_imp fun few => standing.closed (Nat.lt_of_succ_lt few)
      simp only [more, known]
      exact standing.circuit_failed (t.now finish)

end Standing

def standstill : Timing Unit := ⟨fun _ => 0, fun _ => false, fun _ => 0, fun _ s => s⟩

def outage : Reply × Unit := (.error (.serverError 500 "down"), ())

def strict : RetryPolicy where
  maxRetries := 1
  jitter := .zero false
  threshold := 2

/-- Two calls are given up after two requests each; a third one is refused. -/
theorem calls_disciplined_outage :
    let first := call standstill strict "" (fun _ => outage) {} ()
    let second := call standstill strict "" (fun _ => outage) first.left ()
    let third := call standstill strict "" (fun _ => outage) second.left ()
    strict.Certain ∧ (∀ s, standstill.cancelled s = false) ∧
    Calls standstill strict "" [first, second] second.left ∧ second.left.retries + 2 = 4 ∧
    second.left.breaker.circuit = .opened 0 ∧ third.deeds = [] ∧ third.left = second.left := by
  intro first second third
  have made : Calls standstill strict "" [first, second] second.left :=
    (Calls.nothing.next _ _).next _ _
  have certain : strict.Certain := rfl
  obtain ⟨counted, -, -, onward⟩ := calls_disciplined standstill strict "" certain (fun _ => rfl)
    [first, second] second.left made
  have opened : second.left.breaker.circuit = .opened 0 := by decide
  obtain ⟨-, idle, same, -⟩ := (onward (fun _ => outage) ()).1 ⟨0, opened, by decide⟩
  exact ⟨certain, fun _ => rfl, made, counted, opened, idle, same⟩

end Guard

end PathAudit
