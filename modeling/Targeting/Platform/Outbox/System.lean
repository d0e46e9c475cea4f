import Targeting.Platform.Outbox.Basic
import Targeting.Platform.Outbox.Delivery

/-!
# The outbox at work

Around the outbox there are the deliveries that run in the background, the timers that were set, and the
callers that wait for deliveries. What happens next is chosen from outside, one step at a time: another
call comes in, a timer fires, an attempt to deliver a batch has an outcome, or a waiting caller goes on.
A timer that was cancelled may still fire, since it may have been waiting for the lock.

## Main definitions

* `System` — the outbox with its deliveries, timers and callers
* `System.Label`, `System.next?` — the choices, and the step of a choice if it is possible
* `System.Report` — what a step lets the world know
-/

namespace Targeting.Platform.Outbox

/-- A delivery that is under way, or how it has ended. -/
inductive Progress where
  | active (delivery : Delivery)
  | ended (ending : Delivery.Ending)

/-- Whether a delivery has ended. -/
def Progress.isEnded : Progress → Bool
  | active _ => false
  | ended _ => true

/-- What a caller waits for. -/
inductive Purpose where
  | flush
  | stop
  deriving DecidableEq

/-- A caller that waits for deliveries, one after another. -/
structure Caller where
  purpose : Purpose
  waiting : List Nat

/-- The outbox with all that runs around it. Deliveries and callers are known by numbers, and timers by
their generation. -/
structure System where
  settings : OutboxSettings
  outbox : Outbox := {}
  deliveries : List (Nat × Progress) := []
  timers : List Nat := []
  callers : List (Nat × Caller) := []

namespace System

/-- What happens next. -/
inductive Label where
  | start (inRuntime : Bool)
  | update (integration : Integration)
  | send (id : String) (event : Event)
  | flush (caller : Nat)
  | stop (caller : Nat)
  /-- A waiting caller looks at what it waits for. -/
  | resume (caller : Nat)
  /-- The timer of a generation fires. -/
  | fire (generation : Nat)
  /-- An attempt to deliver a batch has an outcome; the random part of a delay is given. -/
  | attempt (batch : Nat) (draw : Duration) (outcome : Delivery.Outcome)

/-- What a step lets the world know. -/
inductive Report where
  /-- The outbox has an effect. -/
  | effect (e : Effect)
  /-- The outbox could be started, or not. -/
  | started (result : Except Failure Unit)
  /-- A delivery waits before its next attempt. -/
  | waits (batch : Nat) (delay : Duration)
  /-- A delivery has ended. -/
  | ended (batch : Nat) (ending : Delivery.Ending)
  /-- A call returns. -/
  | returned (caller : Nat)

variable (s : System)

/-- The progress of a delivery. -/
def progress? (batch : Nat) : Option Progress := s.deliveries.lookup batch

/-- Whether a delivery has ended. -/
def isFinished (batch : Nat) : Bool := (s.progress? batch).any Progress.isEnded

/-- The deliveries and timers after an effect of the outbox. -/
def absorb (s : System) : Effect → System
  | .armed generation => { s with timers := s.timers ++ [generation] }
  | .handedOver batch config events =>
    let delivery := Delivery.ofRule s.settings.retryRule config events
    { s with deliveries := s.deliveries ++ [(batch, .active delivery)] }
  | _ => s

/-- The system after a step of the outbox. -/
def applied (outbox : Outbox) (effects : List Effect) : System × List Report :=
  (effects.foldl absorb { s with outbox }, effects.map .effect)

/-- A list with the value under a number replaced. -/
def replace {α : Type} (xs : List (Nat × α)) (n : Nat) (x : α) : List (Nat × α) :=
  xs.map fun (m, y) => if m = n then (m, x) else (m, y)

/-- A list without the value under a number. -/
def without {α : Type} (xs : List (Nat × α)) (n : Nat) : List (Nat × α) := xs.filter (·.1 != n)

/-! ### Callers

A call in progress has a number of its own: no other call begins under it. -/

/-- Whether a caller with a number waits. -/
def isWaiting (n : Nat) : Bool := (s.callers.lookup n).isSome

/-- The system with a caller that waits. -/
def withCaller (n : Nat) (caller : Caller) : System := { s with callers := s.callers ++ [(n, caller)] }

/-- What is said about a delivery that a caller has waited for. -/
def afterwards : Progress → List Effect
  | .ended .crashed => [.said .crashed]
  | _ => []

/-- A caller that has waited for all deliveries returns. -/
def release (n : Nat) (purpose : Purpose) : System × List Report :=
  let s := { s with callers := without s.callers n }
  let (s, reports) := match purpose with
    | .flush => (s, [])
    | .stop =>
      let (outbox, effects) := s.outbox.endStop
      s.applied outbox effects
  (s, reports ++ [.returned n])

/-- A caller looks at the first delivery that it waits for; none if this one has not ended. -/
def resume? (n : Nat) : Option (System × List Report) := do
  let caller ← s.callers.lookup n
  match caller.waiting with
  | [] => some (s.release n caller.purpose)
  | batch :: rest =>
    let progress ← s.progress? batch
    if progress.isEnded then
      let s := { s with callers := replace s.callers n { caller with waiting := rest } }
      some (s, (afterwards progress).map .effect)
    else none

/-! ### Deliveries -/

/-- The system after an attempt to deliver a batch; none if this batch is not under way. -/
def attempted? (batch : Nat) (draw : Duration) (outcome : Delivery.Outcome) :
    Option (System × List Report) :=
  match s.progress? batch with
  | some (.active delivery) =>
    let (said, sequel) := delivery.receive draw outcome
    let said := said.map fun notice => Report.effect (.said notice)
    match sequel with
    | .wait delay delivery =>
      some ({ s with deliveries := replace s.deliveries batch (.active delivery) },
        said ++ [.waits batch delay])
    | .ended ending =>
      some ({ s with deliveries := replace s.deliveries batch (.ended ending) },
        said ++ [.ended batch ending])
  | _ => none

/-! ### Steps -/

/-- The step of a choice, and what it lets the world know; none if the choice is not possible. -/
def next? : Label → Option (System × List Report)
  | .start inRuntime =>
    let (result, outbox, effects) := s.outbox.start inRuntime
    let (s, reports) := s.applied outbox effects
    some (s, reports ++ [.started result])
  | .update integration =>
    let (outbox, effects) := s.outbox.update s.isFinished integration
    some (s.applied outbox effects)
  | .send id event =>
    let (outbox, effects) := s.outbox.send s.settings s.isFinished id event
    some (s.applied outbox effects)
  | .flush n =>
    if s.isWaiting n then none
    else
      let (waiting, outbox, effects) := s.outbox.beginFlush s.isFinished
      let (s, reports) := s.applied outbox effects
      some (s.withCaller n ⟨.flush, waiting⟩, reports)
  | .stop n =>
    if s.isWaiting n then none
    else
      let (waiting, outbox, effects) := s.outbox.beginStop s.isFinished
      let (s, reports) := s.applied outbox effects
      match waiting with
      | some waiting => some (s.withCaller n ⟨.stop, waiting⟩, reports)
      | none => some (s, reports ++ [.returned n])
  | .resume n => s.resume? n
  | .fire generation =>
    if s.timers.contains generation then
      let (outbox, effects) := s.outbox.fire s.isFinished generation
      some ({ s with timers := s.timers.erase generation }.applied outbox effects)
    else none
  | .attempt batch draw outcome => s.attempted? batch draw outcome

end System

end Targeting.Platform.Outbox
