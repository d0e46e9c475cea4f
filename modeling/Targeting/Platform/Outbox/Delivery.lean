import Targeting.Platform.Http
import Targeting.Platform.Outbox.Notice
import Targeting.Platform.Settings

/-!
# Delivering a batch

A batch is tried until it is sent, until it turns out that it cannot be sent at all, or until it was
tried as often as allowed. Between two attempts the delivery waits; its delays are its own and do not
depend on other batches.

## Main definitions

* `Delivery` — a batch on its way
* `Delivery.Outcome`, `Delivery.Ending` — what becomes of an attempt, and of a delivery
* `Delivery.receive` — how a delivery goes on after an attempt
-/

namespace Targeting.Platform

/-- A batch on its way: the attempt that is made next or is under way, and how many are allowed. -/
structure Delivery where
  config : Config
  batch : List Event
  backoff : Backoff
  allowed : Nat
  attempt : Nat := 1

namespace Delivery

open Outbox (Notice)

/-- A batch at the start of its way. -/
def ofRule (rule : RetryRule) (config : Config) (batch : List Event) : Delivery :=
  { config, batch, backoff := rule.backoff, allowed := rule.attempts }

/-- What becomes of an attempt: the platform answers with a status, the attempt fails, or the task that
makes it crashes. -/
inductive Outcome where
  | status (code : Nat)
  | failed (failure : Failure)
  | crashed
  deriving DecidableEq

/-- How a delivery ends. -/
inductive Ending where
  | sent
  | unsendable
  | exhausted
  | crashed
  deriving DecidableEq

/-- How a delivery goes on after an attempt. -/
inductive Sequel where
  | wait (delay : Duration) (delivery : Delivery)
  | ended (ending : Ending)

/-- Whether no attempt may follow one with this outcome. -/
def Outcome.isFinal : Outcome → Bool
  | status code => isSuccessStatus code
  | failed failure => !failure.isRetryable
  | crashed => true

/-- What is said about an attempt. -/
def notices (d : Delivery) : Outcome → List Notice
  | .status code =>
    if isSuccessStatus code then [.sent d.batch.length d.attempt]
    else [.refused (.ofStatus code) d.attempt]
  | .failed failure =>
    if failure.isRetryable then [.failed failure d.attempt]
    else [.unsendable failure d.batch.length]
  | .crashed => []

/-- How a delivery ends after an outcome that is final. -/
def endingOf : Outcome → Ending
  | .status _ => .sent
  | .failed _ => .unsendable
  | .crashed => .crashed

/-- How a delivery goes on after an attempt that may be repeated. The random part of the next delay is
given. -/
def retry (d : Delivery) (draw : Duration) : List Notice × Sequel :=
  if d.allowed ≤ d.attempt then ([.exhausted d.batch.length d.allowed], .ended .exhausted)
  else
    match d.backoff.next? draw with
    | none => ([], .ended .crashed)
    | some (delay, backoff) => ([], .wait delay { d with backoff, attempt := d.attempt + 1 })

/-- What is said after an attempt, and how the delivery goes on. -/
def receive (d : Delivery) (draw : Duration) (outcome : Outcome) : List Notice × Sequel :=
  if outcome.isFinal then (d.notices outcome, .ended (endingOf outcome))
  else
    let (said, sequel) := d.retry draw
    (d.notices outcome ++ said, sequel)

end Delivery

end Targeting.Platform
