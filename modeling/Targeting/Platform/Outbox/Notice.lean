import Targeting.Log
import Targeting.Platform.Event
import Targeting.Platform.Failure
import Targeting.Platform.Status

/-!
# What is said about events

## Main definitions

* `Outbox.Notice`, `Outbox.Notice.record` — the notices, and their records
* `Outbox.Notice.isFinal` — whether a notice is the last word about a batch
-/

namespace Targeting.Platform.Outbox

/-- What is said while events are accepted and delivered. -/
inductive Notice where
  /-- There is nothing to run tasks in the background. -/
  | noRuntime
  /-- An event comes while the outbox is not running. -/
  | notRunning (state : State) (action : String)
  /-- An event comes while the project is not integrated. -/
  | notIntegrated (action : String)
  /-- An event has a fault. -/
  | faulty (fault : Event.Fault) (action : String)
  /-- An event comes while the queue is full. -/
  | queueFull (limit : Nat)
  /-- A customer without any identifier is to be identified. -/
  | nobodyToIdentify
  /-- A new configuration comes when it does not matter any more. -/
  | ignoredUpdate (state : State)
  /-- Queued events are lost because the project is not integrated. -/
  | droppedUnintegrated (count : Nat)
  /-- Queued events are lost because the outbox was not started. -/
  | droppedUnstarted (count : Nat)
  /-- The outbox has stopped. -/
  | stopped
  /-- A batch was sent. -/
  | sent (count attempt : Nat)
  /-- The platform has refused a batch, perhaps for now. -/
  | refused (failure : Failure) (attempt : Nat)
  /-- A batch cannot be sent at all. -/
  | unsendable (failure : Failure) (count : Nat)
  /-- A batch could not be sent this time. -/
  | failed (failure : Failure) (attempt : Nat)
  /-- A batch was tried as often as allowed. -/
  | exhausted (count attempts : Nat)
  /-- The delivery of a batch has crashed. -/
  | crashed

namespace Notice

/-- The record of a notice. -/
def record : Notice → Log.Record
  | noRuntime => ⟨.error, "ODP event manager must be started within a Tokio runtime", []⟩
  | notRunning state action =>
    ⟨.warn, "ODP event manager is not running, dropping event",
      [("state", state.text), ("action", action)]⟩
  | notIntegrated action =>
    ⟨.debug, "ODP is not integrated, dropping event", [("action", action)]⟩
  | faulty fault action =>
    ⟨.error, "dropping invalid ODP event: " ++ fault.message, [("action", action)]⟩
  | queueFull limit =>
    ⟨.warn, "ODP event queue is full, dropping event", [("queue_size", toString limit)]⟩
  | nobodyToIdentify => ⟨.debug, "skipping identify event: no user id or vuid", []⟩
  | ignoredUpdate state =>
    ⟨.debug, "ignoring ODP config update for inactive event manager", [("state", state.text)]⟩
  | droppedUnintegrated count =>
    ⟨.debug, "ODP is not integrated, dropping queued events", [("batch_size", toString count)]⟩
  | droppedUnstarted count =>
    ⟨.warn, "ODP event manager is not started, dropping queued events",
      [("batch_size", toString count)]⟩
  | stopped => ⟨.debug, "ODP event manager stopped", []⟩
  | sent count attempt =>
    ⟨.debug, "sent ODP events", [("batch_size", toString count), ("attempt", toString attempt)]⟩
  | refused failure attempt =>
    ⟨.debug, "ODP events request failed",
      [("err", failure.message), ("attempt", toString attempt)]⟩
  | unsendable failure count =>
    ⟨.error, "ODP events can't be sent, dropping batch",
      [("err", failure.message), ("batch_size", toString count)]⟩
  | failed failure attempt =>
    ⟨.debug, "failed to send ODP events",
      [("err", failure.inspect), ("attempt", toString attempt)]⟩
  | exhausted count attempts =>
    ⟨.error, "failed to send ODP events after " ++ toString attempts
      ++ " attempts, dropping batch",
      [("batch_size", toString count), ("attempts", toString attempts)]⟩
  | crashed => ⟨.error, "ODP event dispatch panicked", [("err", "<panic>")]⟩

/-- Whether a notice is the last word about a batch. -/
def isFinal : Notice → Bool
  | sent _ _ => true
  | unsendable _ _ => true
  | exhausted _ _ => true
  | crashed => true
  | _ => false

end Notice

end Targeting.Platform.Outbox
