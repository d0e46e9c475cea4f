import Targeting.Platform.Outbox.Notice
import Targeting.Platform.Settings

/-!
# The outbox for events

Accepted events wait in a queue. A full batch is handed over for delivery at once, and a timer sees to
it that a smaller one does not wait too long. All events of a batch were accepted under one
configuration: when a new one comes, what is queued is handed over first.

Everything here happens under a lock, so each function below is one indivisible step. It says what it
does to the world outside by a list of effects. A timer carries a *generation*; one that fires after it
was cancelled no longer has the current generation and does nothing.

## Main definitions

* `Outbox` — what the lock protects, with the status of the service
* `Outbox.Effect` — what a step does to the world outside
* `Outbox.start`, `Outbox.update`, `Outbox.send`, `Outbox.fire` — the steps
* `Outbox.beginFlush`, `Outbox.beginStop`, `Outbox.endStop` — the steps of calls that wait
-/

namespace Targeting.Platform

/-- What the lock of an outbox protects, with its status. Deliveries are known by the number of the batch;
`deliveries` are those that nobody waits for yet. -/
structure Outbox where
  status : Status := {}
  integration : Option Integration := none
  queue : List Event := []
  hasRuntime : Bool := false
  timer : Option Nat := none
  generation : Nat := 0
  deliveries : List Nat := []
  handedOver : Nat := 0

namespace Outbox

/-- What a step does to the world outside. -/
inductive Effect where
  /-- Something is said. -/
  | said (notice : Notice)
  /-- An event is accepted, in the form in which it will be sent. -/
  | accepted (event : Event)
  /-- A timer is set. -/
  | armed (generation : Nat)
  /-- A timer is cancelled. -/
  | cancelled (generation : Nat)
  /-- A batch is handed over for delivery. -/
  | handedOver (batch : Nat) (config : Config) (events : List Event)

variable (settings : OutboxSettings) (finished : Nat → Bool)

/-- The configuration under which events are accepted. -/
def config? (o : Outbox) : Option Config := o.integration.bind Integration.config?

/-! ### The queue and the timer -/

/-- Sets the timer unless it is set. -/
def arm (o : Outbox) : Outbox × List Effect :=
  if o.timer.isNone && o.hasRuntime then
    let generation := o.generation + 1
    ({ o with timer := some generation, generation }, [.armed generation])
  else (o, [])

/-- Cancels the timer if it is set. -/
def disarm (o : Outbox) : Outbox × List Effect :=
  match o.timer with
  | some generation =>
    ({ o with timer := none, generation := o.generation + 1 }, [.cancelled generation])
  | none => (o, [])

/-- Hands a batch over for delivery. -/
def handOver (o : Outbox) (config : Config) (events : List Event) : Outbox × List Effect :=
  ({ o with deliveries := o.deliveries ++ [o.handedOver], handedOver := o.handedOver + 1 },
    [.handedOver o.handedOver config events])

/-- Takes all events from the queue and hands them over. Without a configuration or without anything to
run the delivery they are lost. -/
def empty (o : Outbox) : Outbox × List Effect :=
  let rest := { o with queue := [] }
  if o.queue.isEmpty then (o, [])
  else
    match o.config? with
    | none => (rest, [.said (.droppedUnintegrated o.queue.length)])
    | some config =>
      if o.hasRuntime then rest.handOver config o.queue
      else (rest, [.said (.droppedUnstarted o.queue.length)])

/-- Forgets the deliveries that are finished. -/
def forget (o : Outbox) : Outbox :=
  { o with deliveries := o.deliveries.filter (!finished ·) }

/-- Cancels the timer and hands over what is queued. -/
def flush (o : Outbox) : Outbox × List Effect :=
  let (o, cancelled) := o.disarm
  let (o, handed) := (o.forget finished).empty
  (o, cancelled ++ handed)

/-! ### Starting and configuration -/

/-- Starts a new outbox; any other one is left alone. It runs as soon as it also has a
configuration. -/
def start (inRuntime : Bool) (o : Outbox) : Except Failure Unit × Outbox × List Effect :=
  if o.status.state ≠ .new then (.ok (), o, [])
  else if inRuntime then
    let state := if o.integration.isSome then State.running else .starting
    (.ok (), { o with hasRuntime := true, status := o.status.set state }, [])
  else (.error .noRuntime, { o with status := o.status.set .failed }, [.said .noRuntime])

/-- Takes on a configuration. What is queued is handed over under the one before. -/
def update (integration : Integration) (o : Outbox) : Outbox × List Effect :=
  match o.status.state with
  | .new => ({ o with integration := some integration }, [])
  | .starting =>
    ({ o with integration := some integration, status := o.status.set .running }, [])
  | .running =>
    -- The configuration that is there already is no reason to hand anything over.
    if o.integration = some integration then (o, [])
    else
      let (o, effects) := o.flush finished
      ({ o with integration := some integration }, effects)
  | state => (o, [.said (.ignoredUpdate state)])

/-! ### Events -/

/-- Why an event is not accepted: of several reasons the first one counts. -/
def refusal? (o : Outbox) (event : Event) : Option Notice :=
  if o.status.state ≠ .running then some (.notRunning o.status.state event.action)
  else if o.config?.isNone then some (.notIntegrated event.action)
  else
    match event.fault? with
    | some fault => some (.faulty fault event.action)
    | none => if settings.queueSize ≤ o.queue.length then some (.queueFull settings.queueSize) else none

/-- The form in which an event is queued. -/
def prepared (id : String) (event : Event) : Event :=
  event.normalize.complete (Event.commonData settings.sender settings.device) id

/-- Queues an event that is accepted. A full batch is handed over, and otherwise the timer is set. -/
def accept (event : Event) (o : Outbox) : Outbox × List Effect :=
  let o := { o with queue := o.queue ++ [event] }
  let (o, effects) := if settings.fullBatch ≤ o.queue.length then o.flush finished else o.arm
  (o, .accepted event :: effects)

/-- Accepts an event, or says why not. The id is taken if the event has none. -/
def send (id : String) (event : Event) (o : Outbox) : Outbox × List Effect :=
  match o.refusal? settings event with
  | some notice => (o, [.said notice])
  | none => o.accept settings finished (prepared settings id event)

/-! ### The timer fires -/

/-- Hands over what is queued when the timer of a generation fires, if this is the current one. -/
def fire (generation : Nat) (o : Outbox) : Outbox × List Effect :=
  if o.generation = generation then { o with timer := none }.flush finished else (o, [])

/-! ### Calls that wait -/

/-- Takes the deliveries that nobody waits for yet. -/
def takeDeliveries (o : Outbox) : List Nat × Outbox := (o.deliveries, { o with deliveries := [] })

/-- Hands over what is queued; the caller has to wait for the deliveries in the result. -/
def beginFlush (o : Outbox) : List Nat × Outbox × List Effect :=
  let (o, effects) := o.flush finished
  -- From here on the caller is the only one who knows of these deliveries.
  let (waiting, o) := o.takeDeliveries
  (waiting, o, effects)

/-- Begins to stop. One that is new stops at once, and one that is stopping already or is finished is
left alone; otherwise the caller has to wait for the deliveries in the result. -/
def beginStop (o : Outbox) : Option (List Nat) × Outbox × List Effect :=
  match o.status.state with
  | .new => (none, { o with status := o.status.set .terminated }, [])
  | .starting | .running =>
    let (waiting, o, effects) := { o with status := o.status.set .stopping }.beginFlush finished
    (some waiting, o, effects)
  | _ => (none, o, [])

/-- Ends stopping, when all deliveries are finished. -/
def endStop (o : Outbox) : Outbox × List Effect :=
  ({ o with status := o.status.set .terminated }, [.said .stopped])

end Outbox

end Targeting.Platform
