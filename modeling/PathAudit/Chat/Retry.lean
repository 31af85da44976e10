import PathAudit.Chat.Stream
import PathAudit.Notice

/-! Requests with bounded retries behind a breaker. A retryable error is asked again after a wait
that doubles; after too many failed requests in a row the breaker opens and requests are refused at
once until it has cooled down, when one request probes whether it may close again. -/
namespace PathAudit

structure Band where
  least : Nat
  greatest : Nat
  deriving DecidableEq, Repr, Inhabited

namespace Band

def point (s : Nat) : Band := ⟨s, s⟩

def pick (b : Band) (choice : Nat) : Nat := b.least + choice % (b.greatest - b.least + 1)

@[simp]
theorem pick_point (s : Nat) (choice : Nat) : (point s).pick choice = s := by
  simp [point, pick, Nat.mod_one]

theorem pick_le_greatest (b : Band) (ordered : b.least ≤ b.greatest) (choice : Nat) :
    b.pick choice ≤ b.greatest := by
  have := Nat.mod_lt choice (show 0 < b.greatest - b.least + 1 by omega)
  unfold pick
  omega

def within (b : Band) (least greatest : Nat) : Bool := least ≤ b.least && b.greatest ≤ greatest

end Band

structure RetryPolicy where
  maxRetries : Nat := 3
  baseDelay : Nat := Span.seconds 1
  maxDelay : Nat := Span.seconds 30
  /-- The fraction of a wait that chance adds or takes away. -/
  jitter : Double := Double.ofParts false 2 (-1) |>.getD (.zero false)
  threshold : Nat := 5
  cooldown : Nat := Span.seconds 60
  deriving Repr

namespace RetryPolicy

/-- The wait before retry number `attempt`, counted from 0, before chance has its say. -/
def nominal (p : RetryPolicy) (attempt : Nat) : Nat :=
  min (p.baseDelay * Nat.pow 2 (min attempt 16)) p.maxDelay

/-- The possible waits before retry number `attempt`. A wait that the service asked for is not
subject to chance. -/
def waits (p : RetryPolicy) (attempt : Nat) (hint : Option Nat) : Band :=
  match hint with
  | some hint => .point (min hint p.maxDelay)
  | none =>
    let wait := p.nominal attempt
    if p.jitter.negative || p.jitter.isZero then .point wait
    else
      let num := p.jitter.num
      let den := p.jitter.den
      let scaled (factor : Nat) := max (Double.roundDiv (wait * factor) den) (Span.millis 1)
      ⟨scaled (den - num), scaled (den + num)⟩

end RetryPolicy

inductive Circuit where
  | closed
  | opened (since : Nat)
  | halfOpen
  deriving DecidableEq, Repr, Inhabited

/-- The state of the circuit and the requests given up since the last success. Their number has no
bound here; a counter of 32 bits would start again from 0 after 2^32 of them. -/
structure Breaker where
  circuit : Circuit := .closed
  failures : Nat := 0
  deriving DecidableEq, Repr, Inhabited

namespace Breaker

/-- Whether a request may go out at time `now`; a circuit that has cooled down becomes half
open. -/
def allow (b : Breaker) (cooldown now : Nat) : Bool × Breaker :=
  match b.circuit with
  | .closed | .halfOpen => (true, b)
  | .opened since =>
    if cooldown ≤ now - since then (true, { b with circuit := .halfOpen }) else (false, b)

def succeeded : Breaker := ⟨.closed, 0⟩

def trips (b : Breaker) (threshold : Nat) : Bool :=
  match b.circuit with
  | .halfOpen => true
  | .closed => max threshold 1 ≤ b.failures + 1
  | .opened _ => false

def failed (b : Breaker) (threshold : Nat) (now : Nat) : Breaker :=
  ⟨if b.trips threshold then .opened now else b.circuit, b.failures + 1⟩

end Breaker

structure Timing (σ : Type) where
  now : σ → Nat
  cancelled : σ → Bool
  choice : σ → Nat
  sleep : Nat → σ → σ

/-- A service shared by all who ask it: its breaker and the retries so far, whose number has no
bound here as a counter of 64 bits has. -/
structure Guard where
  breaker : Breaker := {}
  retries : Nat := 0
  deriving DecidableEq, Repr, Inhabited

namespace Guard

def target : String := "aegis_llm::reliable"

def retryNotice (model : String) (p : RetryPolicy) (attempt : Nat) (wait : Nat)
    (e : GatewayError) : Notice :=
  .warn target "reasoning request failed, retrying"
    [("model", .string model), ("attempt", .nat attempt), ("max_retries", .nat p.maxRetries),
      ("delay_ms", .nat (Span.toMillis wait)), ("error_kind", .string e.kind),
      Notice.shown "error" e.message]

def openedNotice (model : String) (p : RetryPolicy) (failures : Nat) : Notice :=
  .warn target "reasoning endpoint circuit opened"
    [("model", .string model), ("failures", .nat failures),
      ("cooldown_secs", .nat (Span.toSeconds p.cooldown))]

variable {σ : Type}

def giveUp (model : String) (p : RetryPolicy) (now : Nat) (g : Guard) : Guard × List Notice :=
  let notices :=
    if g.breaker.trips p.threshold then [openedNotice model p (g.breaker.failures + 1)] else []
  ({ g with breaker := g.breaker.failed p.threshold now }, notices)

/-- Asks until a reply opens, an error is final or no retries are `left`. -/
def attempts (t : Timing σ) (p : RetryPolicy) (model : String) (ask : σ → Reply × σ) :
    Nat → Guard → σ → Reply × Guard × σ × List Notice
  | left, g, s =>
    let (allowed, breaker) := g.breaker.allow p.cooldown (t.now s)
    let g := { g with breaker }
    if !allowed then (.error .providerOverloaded, g, s, [])
    else
      match ask s with
      | (.ok events, s) => (.ok events, { g with breaker := .succeeded }, s, [])
      | (.error e, s) =>
        let stop (notices : List Notice) : Reply × Guard × σ × List Notice :=
          let (g, more) := g.giveUp model p (t.now s)
          (.error e, g, s, notices ++ more)
        match left with
        | 0 => stop []
        | left + 1 =>
          if !e.isRetryable then stop []
          else
            let attempt := p.maxRetries - (left + 1)
            let wait := (p.waits attempt e.suggestedDelay).pick (t.choice s)
            let g := { g with retries := g.retries + 1 }
            let notice := retryNotice model p (attempt + 1) wait e
            if t.cancelled s then
              let (g, more) := g.giveUp model p (t.now s)
              (.error e, g, s, notice :: more)
            else
              let (reply, g, s, more) :=
                attempts t p model ask left g (t.sleep (min wait Span.longest) s)
              (reply, g, s, notice :: more)

def stream (t : Timing σ) (p : RetryPolicy) (model : String) (ask : σ → Reply × σ) (g : Guard)
    (s : σ) : Reply × Guard × σ × List Notice :=
  attempts t p model ask p.maxRetries g s

end Guard

end PathAudit
