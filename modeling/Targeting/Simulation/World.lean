import Targeting.Platform.Channel
import Targeting.Platform.Client
import Targeting.Simulation.Script
import Targeting.Text.Infix
import Targeting.Text.Uuid

/-!
# A simulated world

The world holds the client, a clock, the scripts from which the platform replies, and the tasks that
run in the background. Tasks take turns in the order in which they became ready, and a task runs
until it has to wait. Some wait for the clock, and they become ready in the order of their
deadlines, those with one deadline in the order in which they began to wait.

A wait that is over when it begins is passed in the same turn, but a turn passes a limited number of
waits only. At the next one its task gives way: it becomes ready again at the end of the round.

## Main definitions

* `Job` — what a task does when its turn comes
* `Call`, `Result` — calls that wait, and what calls return
* `World` — the state of a simulation
* `World.pass?`, `World.pause` — waits that are passed, and waits for some time
* `World.outboxStep`, `World.segmentsStep` — steps of the client's parts, with all that follows from
  them at once
-/

namespace Targeting.Simulation

open Targeting.Platform

/-- What is simulated: the outbox alone, the segments alone, the whole client, or a client that
reaches no platform. -/
inductive Stage where
  | outbox
  | segments
  | client
  | offline
  deriving DecidableEq

/-- What a call is for. -/
inductive CallKind where
  | flush
  | stop
  | running
  | fetch (userKey userValue : String) (options : Segments.FetchOptions)
  /-- The call makes no sense for what is simulated. -/
  | senseless

/-- The word under which a call in the background is reported. -/
abbrev Topic := String

/-- What a call returns. -/
inductive Result where
  | nothing
  | flag (b : Bool)
  | outcome (result : Except Failure Unit)
  | pending
  | names (names : Option (List String))
  | senseless
  | crashed (message : String)

/-- What a task does when its turn comes. -/
inductive Job where
  /-- Makes the next attempt to deliver a batch. -/
  | attempt (batch : Nat)
  /-- Receives the reply to an attempt. -/
  | receive (batch : Nat) (reply : Reply)
  /-- Sets the timer of a generation. -/
  | setTimer (generation : Nat)
  /-- Lets the timer of a generation fire. -/
  | fire (generation : Nat)
  /-- Begins a call. -/
  | begin (call : Nat) (topic : Topic) (kind : CallKind)
  /-- Goes on with a call that has waited. -/
  | resume (call : Nat)
  /-- Receives the reply to a question for segments. -/
  | answer (call : Nat) (reply : Reply)
  /-- Waits for some time first. -/
  | wait (delay : Duration) (job : Job)
  /-- Nothing is left to do, since the task was cancelled. -/
  | idle

/-- Whether a task is the timer of a generation. -/
def Job.isTimer (generation : Nat) : Job → Bool
  | setTimer g => g == generation
  | fire g => g == generation
  | wait _ job => job.isTimer generation
  | _ => false

/-- Whether a task is a part of a call. -/
def Job.isPartOf (call : Nat) : Job → Bool
  | begin n _ _ => n == call
  | resume n => n == call
  | answer n _ => n == call
  | wait _ job => job.isPartOf call
  | _ => false

/-- A task that waits for the clock. -/
structure Sleeper where
  deadline : Duration
  job : Job

/-- What a call that has begun waits for. -/
inductive Wait where
  /-- The deliveries of the outbox. -/
  | deliveries
  /-- A step of the client. -/
  | client (place : Client.Place)
  /-- The service to run. -/
  | running
  /-- The platform. -/
  | platform

/-- A call that has begun: what it is about, and what it waits for. -/
structure Call where
  topic : Topic
  wait : Wait

/-- What happens in the world during a step of a session. -/
structure Chronicle where
  requests : List (Duration × Request) := []
  records : List Log.Record := []
  finished : List (Topic × Result) := []

/-- The state of a simulation. The call in the foreground is the one that everyone waits for. -/
structure World where
  stage : Stage
  channel : Channel
  client : Client
  now : Duration := .none
  eventScript : Script := {}
  queryScript : Script := {}
  ready : List Job := []
  /-- The tasks that have given way, the last one first. -/
  deferred : List Job := []
  sleepers : List Sleeper := []
  /-- The turns that were taken in this round. -/
  turns : Nat := 0
  /-- The waits that this turn may still pass. -/
  passes : Nat := 0
  calls : List (Nat × Call) := []
  callCount : Nat := 0
  drawn : Nat := 0
  foreground : Option Nat := none
  result : Option Result := none
  chronicle : Chronicle := {}

namespace World

/-! ### Small changes -/

/-- The world with a record written down. -/
def say (w : World) (r : Log.Record) : World :=
  { w with chronicle := { w.chronicle with records := w.chronicle.records ++ [r] } }

/-- The world with a task made ready. -/
def push (w : World) (job : Job) : World := { w with ready := w.ready ++ [job] }

/-- Whether a task is a part of the call in the foreground. -/
def isForeground (w : World) (job : Job) : Bool := w.foreground.any job.isPartOf

/-- Whether a part of a call is ready or has given way. -/
def isQueued (w : World) (n : Nat) : Bool :=
  w.ready.any (Job.isPartOf n) || w.deferred.any (Job.isPartOf n)

/-- The world in which the timer of a generation does nothing any more. If it slept, it is ready
now. -/
def cancel (w : World) (generation : Nat) : World :=
  let isAsleep := w.sleepers.any (·.job.isTimer generation)
  { w with
    ready := w.ready.map (fun job => if job.isTimer generation then .idle else job)
      ++ (if isAsleep then [.idle] else [])
    sleepers := w.sleepers.filter (!·.job.isTimer generation) }

/-! ### Waits -/

/-- The waits that one turn may pass. -/
def passesPerTurn : Nat := 128

/-- The longest time that a task sleeps, thirty years. It does not wait any longer than that. -/
def longestSleep : Duration := .ofSeconds (30 * 365 * 24 * 60 * 60)

/-- The world with a task that sleeps for some time. When it wakes up, the wait is over. -/
def sleep (w : World) (delay : Duration) (job : Job) : World :=
  { w with sleepers := w.sleepers ++ [⟨w.now.add (delay.min longestSleep), .wait .none job⟩] }

/-- The world after a wait that was passed in this turn, unless the turn has passed too many. -/
def pass? (w : World) : Option World :=
  if w.passes = 0 then none else some { w with passes := w.passes - 1 }

/-- The world with a task that gives way. The call in the foreground goes on in the next round
anyway. -/
def giveWay (w : World) (job : Job) : World :=
  if w.isForeground job then w else { w with deferred := job :: w.deferred }

/-- The world with a task that waits for some time, and whether it goes on in this turn. -/
def pause (w : World) (delay : Duration) (job : Job) : Bool × World :=
  match w.pass? with
  | none => (false, w.giveWay (.wait delay job))
  | some passed => if delay = .none then (true, passed) else (false, w.sleep delay job)

/-! ### Calls that return -/

/-- The world after a call has returned. The result of the call in the foreground is kept, and that
of any other call is reported. -/
def finish (w : World) (n : Nat) (result : Result) : World :=
  match w.calls.lookup n with
  | none => w
  | some call =>
    let w := { w with calls := w.calls.filter (·.1 != n) }
    if w.foreground = some n then { w with result := some result }
    else
      let finished := w.chronicle.finished ++ [(call.topic, result)]
      { w with chronicle := { w.chronicle with finished } }

/-- The world after a call has crashed. Whoever waits for it gets to know, and otherwise nobody
does. -/
def crash (w : World) (n : Nat) (message : String) : World :=
  let w := { w with calls := w.calls.filter (·.1 != n) }
  if w.foreground = some n then { w with result := some (.crashed message) } else w

/-- The world with a call that waits for something. -/
def await (w : World) (n : Nat) (topic : Topic) (wait : Wait) : World :=
  { w with calls := w.calls.filter (·.1 != n) ++ [(n, ⟨topic, wait⟩)] }

/-- The status that can be seen from outside. -/
def status (w : World) : Status :=
  match w.stage with
  | .outbox => w.client.outbox.outbox.status
  | _ => w.client.status

/-! ### Requests to the platform -/

/-- Whether an address is the one of questions for segments. -/
def isQuery (url : String) : Bool := Text.occurs "/v3/graphql".toList url.toList

/-- The world after a request, with the reply and the time until it comes. -/
def request (w : World) (r : Request) : Entry × World :=
  if w.stage = .offline then ({ reply := .received (.error .network) }, w)
  else
    let requests := w.chronicle.requests ++ [(w.now, r)]
    let w := { w with chronicle := { w.chronicle with requests } }
    if isQuery r.url then
      let (entry, script) := w.queryScript.take
      (entry, { w with queryScript := script })
    else
      let (entry, script) := w.eventScript.take
      (entry, { w with eventScript := script })

/-! ### What steps let the world know -/

/-- Makes the callers ready that wait for a delivery. The call in the foreground needs no waking,
and neither does one that is ready already or has given way. -/
def wake (w : World) (batch : Nat) : World :=
  let isWaiting (caller : Outbox.Caller) : Bool := caller.waiting.head? == some batch
  let woken := w.client.outbox.callers.filter fun (n, caller) =>
    isWaiting caller && w.foreground != some n && !w.isQueued n
  woken.foldl (fun w (n, _) => w.push (.resume n)) w

/-- The world after an effect of the outbox. -/
def afterEffect (w : World) : Outbox.Effect → World
  | .said notice => w.say notice.record
  | .accepted _ => w
  | .armed generation => w.push (.setTimer generation)
  | .cancelled generation => w.cancel generation
  | .handedOver batch _ _ => w.push (.attempt batch)

/-- The world after a report about the outbox. A call that returns to the client is not finished by
that. -/
def afterOutbox (w : World) : Outbox.System.Report → World
  | .effect e => w.afterEffect e
  | .ended batch _ => w.wake batch
  | .returned n => if w.stage = .outbox then w.finish n .nothing else w
  | .started _ => w
  | .waits _ _ => w

/-- The world after a report about the segments. -/
def afterSegments (w : World) : Segments.System.Report → World
  | .said notice => w.say notice.record
  | .asks _ _ => w
  | .returned n result => w.finish n (.names result)

/-- The world after a report about the client. -/
def afterReport (w : World) : Client.Report → World
  | .outbox report => w.afterOutbox report
  | .segments report => w.afterSegments report

/-- The world after a step of the outbox, and what the step has reported. -/
def outboxStep (w : World) (label : Outbox.System.Label) : List Client.Report × World :=
  let (client, reports) := w.client.withOutbox label
  (reports, reports.foldl afterReport { w with client })

/-- The world after a step of the segments, and what the step has reported. -/
def segmentsStep (w : World) (label : Segments.System.Label) : List Client.Report × World :=
  let (client, reports) := w.client.withSegments label
  (reports, reports.foldl afterReport { w with client })

end World

end Targeting.Simulation
