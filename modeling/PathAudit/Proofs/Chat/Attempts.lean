import PathAudit.Chat.Retry

/-! One guarded request, with everything it does written down. A request that the breaker refuses
does nothing. One that is let through asks the service, and asks anew after a wait when it is told
an error that may be asked again, until a reply opens, an error is final, the retries are used up or
a wait is cancelled; only what it was told last goes into the breaker. -/
namespace PathAudit

namespace Breaker
variable (b : Breaker) (cooldown now : Nat)

def isCooling : Bool :=
  match b.circuit with
  | .opened since => now - since < cooldown
  | _ => false

def admitting : Breaker :=
  match b.circuit with
  | .opened _ => { b with circuit := .halfOpen }
  | _ => b

theorem allow_eq :
    b.allow cooldown now =
      if b.isCooling cooldown now then (false, b) else (true, b.admitting) := by
  obtain ⟨circuit, failures⟩ := b
  cases circuit with
  | closed => rfl
  | halfOpen => rfl
  | opened since =>
    by_cases cooled : cooldown ≤ now - since
    · simp [allow, isCooling, admitting, cooled]
    · simp [allow, isCooling, cooled, Nat.lt_of_not_le cooled]

@[simp]
theorem failures_admitting : b.admitting.failures = b.failures := by
  unfold admitting
  split <;> rfl

@[simp]
theorem admitting_admitting : b.admitting.admitting = b.admitting := by
  obtain ⟨circuit, failures⟩ := b
  cases circuit <;> rfl

@[simp]
theorem isCooling_admitting : b.admitting.isCooling cooldown now = false := by
  obtain ⟨circuit, failures⟩ := b
  cases circuit <;> rfl

def settle (threshold : Nat) (last : Reply) : Breaker :=
  match last with
  | .ok _ => .succeeded
  | .error _ => b.failed threshold now

end Breaker

namespace Guard

/-- What others notice of a call. -/
inductive Deed where
  | asked (reply : Reply)
  | slept (span : Nat)

end Guard

variable {σ : Type}

def Timing.noting (t : Timing σ) : Timing (σ × List Guard.Deed) where
  now x := t.now x.1
  cancelled x := t.cancelled x.1
  choice x := t.choice x.1
  sleep span x := (t.sleep span x.1, x.2 ++ [.slept span])

theorem Timing.sleep_noting (t : Timing σ) (span : Nat) (s : σ) (deeds : List Guard.Deed) :
    t.noting.sleep span (s, deeds) = (t.sleep span s, deeds ++ [.slept span]) := rfl

namespace Guard

def noting (ask : σ → Reply × σ) (x : σ × List Deed) : Reply × (σ × List Deed) :=
  ((ask x.1).1, (ask x.1).2, x.2 ++ [.asked (ask x.1).1])

theorem noting_of_asked {ask : σ → Reply × σ} {s after : σ} {reply : Reply}
    (asked : ask s = (reply, after)) (deeds : List Deed) :
    noting ask (s, deeds) = (reply, (after, deeds ++ [.asked reply])) := by
  rw [noting, asked]

section Steps
variable (t : Timing σ) (p : RetryPolicy) (model : String) (ask : σ → Reply × σ) {g : Guard}
  {s after : σ} {left : Nat}

theorem attempts_refused (cooling : g.breaker.isCooling p.cooldown (t.now s) = true) :
    attempts t p model ask left g s = (.error .providerOverloaded, g, s, []) := by
  unfold attempts
  rw [Breaker.allow_eq, if_pos cooling]
  rfl

section Through
variable (through : g.breaker.isCooling p.cooldown (t.now s) = false)
include through

private theorem allow_through :
    g.breaker.allow p.cooldown (t.now s) = (true, g.breaker.admitting) := by
  rw [Breaker.allow_eq, through]
  rfl

theorem attempts_of_last {last : Reply} (asked : ask s = (last, after))
    (final : ∀ e, last = .error e → e.isRetryable = true → left = 0) : ∃ told,
    attempts t p model ask left g s =
      (last, ⟨g.breaker.admitting.settle (t.now after) p.threshold last, g.retries⟩, after,
        told) := by
  unfold attempts
  rw [allow_through t p through, asked]
  cases last with
  | ok events => exact ⟨[], rfl⟩
  | error e =>
    cases left with
    | zero => exact ⟨_, rfl⟩
    | succ left =>
      have fatal : e.isRetryable = false := by
        cases retryable : e.isRetryable with
        | false => rfl
        | true => exact absurd (final e rfl retryable) (Nat.succ_ne_zero left)
      simp only [fatal]
      exact ⟨_, rfl⟩

variable {e : GatewayError} (asked : ask s = (.error e, after)) (retryable : e.isRetryable = true)
include asked retryable

theorem attempts_of_cancelled (cancelled : t.cancelled after = true) : ∃ told,
    attempts t p model ask (left + 1) g s =
      (.error e, ⟨g.breaker.admitting.failed p.threshold (t.now after), g.retries + 1⟩, after,
        told) := by
  unfold attempts
  rw [allow_through t p through, asked]
  simp only [retryable, cancelled]
  exact ⟨_, rfl⟩

theorem attempts_of_again (going : t.cancelled after = false) {last : Reply} {next : Guard}
    {finish : σ} {told : List Notice}
    (onward : attempts t p model ask left ⟨g.breaker.admitting, g.retries + 1⟩
      (t.sleep (min ((p.waits (p.maxRetries - (left + 1)) e.suggestedDelay).pick (t.choice after))
        Span.longest) after) = (last, next, finish, told)) : ∃ told,
    attempts t p model ask (left + 1) g s = (last, next, finish, told) := by
  rw [attempts.eq_def]
  dsimp only
  rw [allow_through t p through, asked]
  simp only [retryable, going, onward]
  exact ⟨_, rfl⟩

end Through

end Steps

section Attempts
variable (t : Timing σ) (p : RetryPolicy) (ask : σ → Reply × σ)

/-- What a call with so many retries left comes to, with the guard and the world after it, and what
it did. -/
inductive Attempts : Nat → Guard → σ → Reply → Guard → σ → List Deed → Prop
  | refused {left : Nat} {g : Guard} {s : σ}
      (cooling : g.breaker.isCooling p.cooldown (t.now s) = true) :
      Attempts left g s (.error .providerOverloaded) g s []
  | last {left : Nat} {g : Guard} {s after : σ} {reply : Reply}
      (through : g.breaker.isCooling p.cooldown (t.now s) = false) (asked : ask s = (reply, after))
      (final : ∀ e, reply = .error e → e.isRetryable = true → left = 0) :
      Attempts left g s reply
        ⟨g.breaker.admitting.settle (t.now after) p.threshold reply, g.retries⟩ after [.asked reply]
  | cancelled {left : Nat} {g : Guard} {s after : σ} {e : GatewayError}
      (through : g.breaker.isCooling p.cooldown (t.now s) = false)
      (asked : ask s = (.error e, after)) (retryable : e.isRetryable = true)
      (cancelled : t.cancelled after = true) :
      Attempts (left + 1) g s (.error e)
        ⟨g.breaker.admitting.failed p.threshold (t.now after), g.retries + 1⟩ after
        [.asked (.error e)]
  | again {left : Nat} {g next : Guard} {s after finish : σ} {e : GatewayError} {span : Nat}
      {reply : Reply} {deeds : List Deed}
      (through : g.breaker.isCooling p.cooldown (t.now s) = false)
      (asked : ask s = (.error e, after)) (retryable : e.isRetryable = true)
      (going : t.cancelled after = false)
      (spell : span = min ((p.waits (p.maxRetries - (left + 1)) e.suggestedDelay).pick
        (t.choice after)) Span.longest)
      (onward : Attempts left ⟨g.breaker.admitting, g.retries + 1⟩ (t.sleep span after) reply next
        finish deeds) :
      Attempts (left + 1) g s reply next finish (.asked (.error e) :: .slept span :: deeds)

variable {t p ask} {left : Nat} {g next : Guard} {s finish : σ} {reply : Reply} {deeds : List Deed}

theorem Attempts.plain (model : String)
    (attempted : Attempts t p ask left g s reply next finish deeds) : ∃ told,
    attempts t p model ask left g s = (reply, next, finish, told) := by
  induction attempted with
  | refused cooling => exact ⟨[], attempts_refused t p model ask cooling⟩
  | last through asked final => exact attempts_of_last t p model ask through asked final
  | cancelled through asked retryable cancelled =>
    exact attempts_of_cancelled t p model ask through asked retryable cancelled
  | again through asked retryable going spell onward ih =>
    obtain ⟨told, onward⟩ := ih
    rw [spell] at onward
    exact attempts_of_again t p model ask through asked retryable going onward

theorem Attempts.noted (model : String)
    (attempted : Attempts t p ask left g s reply next finish deeds) (prior : List Deed) : ∃ told,
    attempts t.noting p model (noting ask) left g (s, prior) =
      (reply, next, (finish, prior ++ deeds), told) := by
  induction attempted generalizing prior with
  | @refused left g s cooling =>
    rw [List.append_nil]
    exact ⟨[], attempts_refused t.noting p model (noting ask) (s := (s, prior)) cooling⟩
  | last through asked final =>
    exact attempts_of_last t.noting p model (noting ask) through (noting_of_asked asked prior) final
  | cancelled through asked retryable cancelled =>
    exact attempts_of_cancelled t.noting p model (noting ask) through (noting_of_asked asked prior)
      retryable cancelled
  | @again left g next s after finish e span reply deeds through asked retryable going spell _ ih =>
    obtain ⟨told, written⟩ := ih (prior ++ [.asked (.error e), .slept span])
    have slept := Timing.sleep_noting t span after (prior ++ [.asked (.error e)])
    rw [List.append_assoc, List.singleton_append] at slept
    rw [List.append_assoc, ← slept, spell] at written
    rw [spell]
    exact attempts_of_again t.noting p model (noting ask) through (noting_of_asked asked prior)
      retryable going written

variable (t p ask) in
theorem exists_attempts (left : Nat) (g : Guard) (s : σ) : ∃ reply next finish deeds,
    Attempts t p ask left g s reply next finish deeds := by
  induction left generalizing g s with
  | zero =>
    cases cooling : g.breaker.isCooling p.cooldown (t.now s) with
    | true => exact ⟨_, _, _, _, .refused cooling⟩
    | false => exact ⟨_, _, _, _, .last cooling rfl fun _ _ _ => rfl⟩
  | succ left ih =>
    cases cooling : g.breaker.isCooling p.cooldown (t.now s) with
    | true => exact ⟨_, _, _, _, .refused cooling⟩
    | false =>
      by_cases again : ∃ e, (ask s).1 = .error e ∧ e.isRetryable = true
      · obtain ⟨e, failed, retryable⟩ := again
        have asked : ask s = (.error e, (ask s).2) := Prod.ext failed rfl
        cases going : t.cancelled (ask s).2 with
        | true => exact ⟨_, _, _, _, .cancelled cooling asked retryable going⟩
        | false =>
          obtain ⟨reply, next, finish, deeds, onward⟩ := ih _ _
          exact ⟨_, _, _, _, .again cooling asked retryable going rfl onward⟩
      · refine ⟨_, _, _, _, .last cooling rfl fun e failed retryable => ?_⟩
        exact absurd ⟨e, failed, retryable⟩ again

end Attempts

end Guard

end PathAudit
