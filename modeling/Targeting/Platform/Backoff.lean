import Targeting.Platform.Duration

/-!
# Delays between attempts

The delay before the next attempt is always the same, or it starts with a base and doubles until it
reaches a greatest delay; a random part may be added to it. Doubling comes before capping, so a delay
whose double cannot be stored is a failure even when the greatest delay is small. So is one that cannot
be stored together with its random part.

## Main definitions

* `Backoff` — the state of the delays of one batch
* `Backoff.next?`, `Backoff.reset` — the next delay, and starting again
* `RetryRule` — how often and with which delays a batch is tried again
-/

namespace Targeting.Platform

/-- The state of the delays of one batch. -/
inductive Backoff where
  /-- The current delay doubles up to `greatest`; at most `jitter` is added. -/
  | doubling (base greatest jitter current : Duration)
  /-- The delay never changes. -/
  | constant (delay : Duration)
  deriving DecidableEq

namespace Backoff

/-- Doubling delays from a base. -/
def ofBase (base greatest jitter : Duration) : Backoff := doubling base greatest jitter base

/-- Doubling delays of one second up to thirty-two, with up to half a second added. -/
def standard : Backoff := ofBase (.ofSeconds 1) (.ofSeconds 32) (.ofMilliseconds 500)

/-- The most that is added to a delay at random. -/
def jitter : Backoff → Duration
  | doubling _ _ jitter _ => jitter
  | constant _ => .none

/-- The next delay with a random part `draw`, and the delays after it; none if the current delay
cannot be doubled, or the random part cannot be added to it. -/
def next? (draw : Duration) : Backoff → Option (Duration × Backoff)
  | doubling base greatest jitter current => do
    let doubled ← current.double?
    let delay ← current.add? draw
    return (delay, doubling base greatest jitter (doubled.min greatest))
  | constant delay => some (delay, constant delay)

/-- The delays from the start again. -/
def reset : Backoff → Backoff
  | doubling base greatest jitter _ => ofBase base greatest jitter
  | constant delay => constant delay

/-- The text of the failure to double a delay. -/
def overflowMessage : String := "overflow when multiplying duration by scalar"

end Backoff

/-- How often a batch is tried again when nothing else is said. -/
def RetryRule.standardRetries : Nat := 5

/-- How often a batch is tried again, and with which delays between the attempts. -/
structure RetryRule where
  retries : Nat := RetryRule.standardRetries
  backoff : Backoff := .standard

/-- The number of attempts: one more than the retries, if that can be counted in thirty-two bits. -/
def RetryRule.attempts (rule : RetryRule) : Nat := min (rule.retries + 1) (Nat.pow 2 32 - 1)

end Targeting.Platform
