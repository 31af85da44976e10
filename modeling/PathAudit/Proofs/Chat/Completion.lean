import PathAudit.Proofs.Chat.Discipline

/-! What a guarded request comes to once its reply is read to the end. The guard hears how a request
opens and no more: an error that comes before the reply opens is asked again, and the same error in
a reply that has opened goes to the caller at once and counts as a success. -/
namespace PathAudit.Guard
variable {σ : Type}

/-- As long as nobody cancels, a closed breaker lets a call through. It asks again after each error
that may be asked again and comes before a reply opens; if such an error is what the call comes to,
all retries were used, unless the last reply opened and broke off: then there were as many requests
as errors before it and one more, and the breaker counts a success. -/
theorem retried_unless_opened (t : Timing σ) (p : RetryPolicy) (model : String)
    (ask : σ → Reply × σ) (g : Guard) (s : σ) (closed : g.breaker.circuit = .closed)
    (patient : ∀ s, t.cancelled s = false) :
    let c := call t p model ask g s
    ∃ failures : List GatewayError, (∀ e ∈ failures, e.isRetryable = true) ∧
      failures.length ≤ p.maxRetries ∧
      c.deeds.filter Deed.isRequest = failures.map (.asked <| .error ·) ++ [.asked c.reply] ∧
      ∀ e, c.reply.complete = .error e → e.isRetryable = true →
        (c.reply = .error e → c.requests = p.maxRetries + 1) ∧
        (∀ events, c.reply = .ok events → c.requests = failures.length + 1 ∧
          c.left = ⟨.succeeded, g.retries + failures.length⟩) ∧
        (c.requests = p.maxRetries + 1 ↔
          (∀ events, c.reply ≠ .ok events) ∨ failures.length = p.maxRetries) := by
  intro c
  have through : g.breaker.isCooling p.cooldown (t.now s) = false := by
    rw [Breaker.isCooling, closed]
  obtain ⟨failures, course, requests, -, left⟩ := (call_attempts t p model ask g s).course patient
    (Nat.le_refl p.maxRetries) through
  have counted : c.requests = failures.length + 1 := by
    rw [Call.requests, List.countP_eq_length_filter, requests]
    simp
  refine ⟨failures, course.retryable, course.within, requests, fun e comes retryable => ?_⟩
  rw [counted]
  change c.left = _ at left
  cases replied : c.reply with
  | error first =>
    rw [replied] at comes
    cases comes
    have all : failures.length = p.maxRetries := course.decisive e replied retryable
    simp [all]
  | ok events =>
    rw [replied] at left
    refine ⟨fun failed => ?_, fun _ _ => ⟨rfl, left⟩, ?_⟩
    · contradiction
    · simp

def breakdown : Reply × Unit := (.ok [.start, .error (.serverError 500 "down")], ())

/-- An error that keeps the reply from opening is asked again, the same error in a reply that has
opened is not. -/
theorem retried_outage_not_breakdown :
    ({} : Guard).breaker.circuit = .closed ∧ (∀ s, standstill.cancelled s = false) ∧
    outage.1.complete = .error (.serverError 500 "down") ∧
    (call standstill strict "" (fun _ => outage) {} ()).requests = 2 ∧
    breakdown.1.complete = .error (.serverError 500 "down") ∧
    (call standstill strict "" (fun _ => breakdown) {} ()).requests = 1 := by
  have closed : ({} : Guard).breaker.circuit = .closed := rfl
  have patient : ∀ s, standstill.cancelled s = false := fun _ => rfl
  obtain ⟨_, -, -, -, down⟩ :=
    retried_unless_opened standstill strict "" (fun _ => outage) {} () closed patient
  obtain ⟨failures, -, -, -, broken⟩ :=
    retried_unless_opened standstill strict "" (fun _ => breakdown) {} () closed patient
  obtain ⟨requests, left⟩ := (broken _ rfl rfl).2.1 _ rfl
  have none : failures.length = 0 := by
    have retries : 0 = 0 + failures.length := congrArg Guard.retries left
    omega
  exact ⟨closed, patient, rfl, (down _ rfl rfl).1 rfl, rfl, by rw [requests, none]⟩

theorem transient_not_retried :
    ¬∀ (t : Timing Unit) (p : RetryPolicy) (model : String) (ask : Unit → Reply × Unit) (g : Guard)
      (s : Unit) (e : GatewayError), g.breaker.circuit = .closed →
      (call t p model ask g s).left.breaker.circuit = .closed → (∀ s, t.cancelled s = false) →
      (call t p model ask g s).reply.complete = .error e → e.isRetryable = true →
      (call t p model ask g s).requests = p.maxRetries + 1 := by
  intro always
  have twice := always standstill strict "" (fun _ => breakdown) {} () (.serverError 500 "down") rfl
    rfl (fun _ => rfl) rfl rfl
  have once : (call standstill strict "" (fun _ => breakdown) {} ()).requests = 1 := rfl
  rw [once] at twice
  contradiction

end PathAudit.Guard
