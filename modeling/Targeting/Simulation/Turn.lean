import Targeting.Simulation.World

/-!
# Turns

When a task has its turn, it goes on with a delivery, a timer or a call until it has to wait.

## Main definitions

* `World.attempt`, `World.receive` — attempts to deliver a batch, and the replies to them
* `World.beginCall`, `World.resume` — calls that begin, and calls that go on
* `World.runJob` — the turn of a task
-/

namespace Targeting.Simulation

open Targeting.Platform

namespace World

/-! ### Deliveries -/

/-- The outcome of an attempt that gets a reply. -/
def outcomeOf : Reply → Delivery.Outcome
  | .received (.ok response) => .status response.status
  | .received (.error failure) => .failed failure
  | .crash _ => .crashed

/-- The delay before the next attempt that a step has reported. -/
def delayIn (reports : List Client.Report) : Option Duration :=
  reports.findSome? fun
    | .outbox (.waits _ delay) => some delay
    | _ => none

/-- The world with a task that waits for a reply, and whether it goes on in this turn. A reply
without a delay needs no wait. -/
def pauseFor (w : World) (entry : Entry) (job : Job) : Bool × World :=
  match entry.delay with
  | none => (true, w)
  | some delay => w.pause delay job

/-- The outcome of an attempt, if it is known at once. -/
def tryBatch (w : World) (batch : Nat) (delivery : Delivery) : Option Delivery.Outcome × World :=
  -- This is only said; whether there is a request for such a batch comes next.
  let w :=
    if w.channel.isMisfit delivery.batch then w.say (Channel.misfitRecord delivery.batch.length)
    else w
  match w.channel.request delivery.config delivery.batch with
  | .error failure => (some (.failed failure), w)
  | .ok r =>
    let (entry, w) := w.request r
    match w.pauseFor entry (.receive batch entry.reply) with
    | (true, w) => (some (outcomeOf entry.reply), w)
    | (false, w) => (none, w)

/-- Goes on with a delivery after an attempt; `fuel` limits the attempts that follow at once. -/
def settle : (fuel : Nat) → (batch : Nat) → Delivery.Outcome → World → World
  | 0, _, _, w => w
  | fuel + 1, batch, outcome, w =>
    let (reports, w) := w.outboxStep (.attempt batch .none outcome)
    match delayIn reports, w.client.outbox.progress? batch with
    | some delay, some (.active delivery) =>
      match w.pause delay (.attempt batch) with
      | (true, w) =>
        match w.tryBatch batch delivery with
        | (some outcome, w) => settle fuel batch outcome w
        | (none, w) => w
      | (false, w) => w
    | _, _ => w

/-- The attempts that a delivery has left. -/
def attemptsLeft (w : World) (batch : Nat) : Nat :=
  match w.client.outbox.progress? batch with
  | some (.active delivery) => delivery.allowed + 1 - delivery.attempt
  | _ => 0

/-- Goes on with a delivery after an attempt. -/
def receive (w : World) (batch : Nat) (outcome : Delivery.Outcome) : World :=
  settle (w.attemptsLeft batch) batch outcome w

/-- Makes the next attempt to deliver a batch. -/
def attempt (w : World) (batch : Nat) : World :=
  match w.client.outbox.progress? batch with
  | some (.active delivery) =>
    match w.tryBatch batch delivery with
    | (some outcome, w) => w.receive batch outcome
    | (none, w) => w
  | _ => w

/-! ### Timers -/

/-- Lets the timer of a generation fire. -/
def fire (w : World) (generation : Nat) : World := (w.outboxStep (.fire generation)).2

/-- Sets the timer of a generation. -/
def setTimer (w : World) (generation : Nat) : World :=
  match w.pause w.client.outbox.settings.flushInterval (.fire generation) with
  | (true, w) => w.fire generation
  | (false, w) => w

/-! ### Calls -/

/-- The result of an answer of the client. -/
def resultOf : Client.Answer → Result
  | .started result => .outcome result
  | .stopped => .nothing
  | .updated isNew => .flag isNew

/-- The world in which a call may look at what it waits for: each look at a delivery is a wait. -/
def look? (w : World) (n : Nat) : Option World :=
  match w.client.outbox.callers.lookup n with
  | none => some w
  | some caller => if caller.waiting.isEmpty then some w else w.pass?

/-- Goes on with a call of the client from a place as far as it can, at most `fuel` steps. -/
def runPlaces (n : Nat) : (fuel : Nat) → Client.Place → World → Client.Place × World
  | 0, place, w => (place, w)
  | fuel + 1, place, w =>
    match w.look? n with
    | none => (place, w.giveWay (.resume n))
    | some looking =>
      match looking.client.step? n place with
      | none => (place, w)
      | some (place, client, reports) =>
        runPlaces n fuel place (reports.foldl afterReport { looking with client })

/-- Goes on with a call of the client from a place. -/
def runClient (w : World) (n : Nat) (topic : Topic) (place : Client.Place) : World :=
  let (place, w) := runPlaces n w.client.longestRun place w
  let w := w.await n topic (.client place)
  match place with
  | .done answer => w.finish n (resultOf answer)
  | _ => w

/-- Goes on with a caller of the outbox as far as it can, at most `fuel` steps. -/
def runCaller (n : Nat) : (fuel : Nat) → World → World
  | 0, w => w
  | fuel + 1, w =>
    match w.look? n with
    | none => w.giveWay (.resume n)
    | some looking =>
      if (looking.client.outbox.next? (.resume n)).isSome then
        runCaller n fuel (looking.outboxStep (.resume n)).2
      else w

/-- Takes the platform's reply to a question for segments. -/
def answerFetch (w : World) (n : Nat) : Reply → World
  | .crash message => w.crash n message
  | .received outcome =>
    let (names, said) := SegmentQuery.receive outcome
    (w.segmentsStep (.answer n w.now names said)).2

/-- The question that a step has reported. -/
def questionIn (reports : List Client.Report) : Option SegmentQuery :=
  reports.findSome? fun
    | .segments (.asks _ query) => some query
    | _ => none

/-- Begins to fetch segments. -/
def beginFetch (w : World) (n : Nat) (userKey userValue : String)
    (options : Segments.FetchOptions) : World :=
  let (reports, w) := w.segmentsStep (.fetch n w.now userKey userValue options)
  match questionIn reports with
  | none => w
  | some query =>
    let (entry, w) := w.request query.request
    match w.pauseFor entry (.answer n entry.reply) with
    | (true, w) => w.answerFetch n entry.reply
    | (false, w) => w

/-- Looks whether the service has run. -/
def lookRunning (w : World) (n : Nat) : World :=
  match w.status.onRunning? with
  | some result => w.finish n (.outcome result)
  | none => w

/-- The steps that a caller of the outbox can make at once. -/
def callerFuel (w : World) : Nat := w.client.outbox.outbox.handedOver + 2

/-- Begins a call. -/
def beginCall (w : World) (n : Nat) (topic : Topic) : CallKind → World
  | .flush =>
    let w := (w.await n topic .deliveries).outboxStep (.flush n) |>.2
    runCaller n w.callerFuel w
  | .stop =>
    if w.stage = .outbox then
      let w := (w.await n topic .deliveries).outboxStep (.stop n) |>.2
      runCaller n w.callerFuel w
    else w.runClient n topic .stop
  | .running => (w.await n topic .running).lookRunning n
  | .fetch userKey userValue options =>
    (w.await n topic .platform).beginFetch n userKey userValue options
  | .senseless => (w.await n topic .platform).finish n .senseless

/-- Goes on with a call that has waited. -/
def resume (w : World) (n : Nat) : World :=
  match w.calls.lookup n with
  | none => w
  | some call =>
    match call.wait with
    | .deliveries => runCaller n w.callerFuel w
    | .client place => w.runClient n call.topic place
    | .running => w.lookRunning n
    | .platform => w

/-! ### Turns -/

/-- What a task does when its turn comes. -/
def perform (w : World) : Job → World
  | .attempt batch => w.attempt batch
  | .receive batch reply => w.receive batch (outcomeOf reply)
  | .setTimer generation => w.setTimer generation
  | .fire generation => w.fire generation
  | .begin n topic kind => w.beginCall n topic kind
  | .resume n => w.resume n
  | .answer n reply => w.answerFetch n reply
  | .wait delay job =>
    match w.pause delay job with
    | (true, w) => w.perform job
    | (false, w) => w
  | .idle => w

/-- Whether a call waits for the service to run. -/
def waitsForRunning (call : Nat × Call) : Bool :=
  match call.2.wait with
  | .running => true
  | _ => false

/-- Makes the calls ready that have waited for the service to run, if it does not make sense to wait
any longer. -/
def wakeRunning (w : World) : World :=
  match w.status.onRunning? with
  | none => w
  | some _ =>
    let woken := w.calls.filter fun call => waitsForRunning call && !w.isQueued call.1
    woken.foldl (fun w (n, _) => w.push (.resume n)) w

/-- The turn of a task. -/
def runJob (w : World) (job : Job) : World :=
  ({ w with passes := passesPerTurn }.perform job).wakeRunning

end World

end Targeting.Simulation
