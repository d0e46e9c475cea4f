import Targeting.Simulation.Clock

/-!
# Sessions

A session is a list of operations on a simulated world. After each one everything runs that can run
without time passing.

## Main definitions

* `Op` — operations
* `World.apply` — an operation, its result and the world after it
-/

namespace Targeting.Simulation

open Targeting.Platform

/-- An operation on a simulated world. -/
inductive Op where
  | start (inRuntime : Bool)
  | update (integration : Integration)
  | send (events : List Event)
  | identify (userId visitor : Option String)
  | register (visitor : String)
  | replaceScript (isForQueries : Bool) (script : Script)
  | advance (milliseconds : Nat)
  | saveSegments (key : String) (names : List String)
  | lookUpSegments (key : String)
  /-- Looks once whether the service has run. -/
  | running
  /-- Waits until a call has returned. -/
  | call (kind : CallKind)
  /-- Starts a call in the background, which is reported under a topic. -/
  | spawn (topic : Topic) (kind : CallKind)

namespace World

/-- Whether the outbox is a part of what is simulated. -/
def hasOutbox (w : World) : Bool := w.stage != .segments

/-- Whether the cache of segments can be seen from outside. -/
def hasCache (w : World) : Bool := w.stage == .segments || w.stage == .client

/-- The world after a call of the client that does not wait, and its result. -/
def runPlace (w : World) (place : Client.Place) : Result × World :=
  let (place, client, reports) := w.client.run w.callCount place
  let w := reports.foldl afterReport { w with client, callCount := w.callCount + 1 }
  match place with
  | .done answer => (resultOf answer, w)
  | _ => (.pending, w)

/-- The result of starting that a step has reported. -/
def startedIn (reports : List Client.Report) : Result :=
  let result? : Client.Report → Option (Except Failure Unit)
    | .outbox (.started result) => some result
    | _ => none
  match reports.findSome? result? with
  | some result => .outcome result
  | none => .nothing

/-- Starts what is simulated. -/
def start (w : World) (inRuntime : Bool) : Result × World :=
  match w.stage with
  | .segments => (.nothing, w)
  | .outbox =>
    let (reports, w) := w.outboxStep (.start inRuntime)
    (startedIn reports, w)
  | _ => w.runPlace (.start inRuntime)

/-- Gives what is simulated a configuration. -/
def update (w : World) (integration : Integration) : Result × World :=
  match w.stage with
  | .outbox => (.nothing, (w.outboxStep (.update integration)).2)
  | .segments => (.nothing, (w.segmentsStep (.update integration)).2)
  | _ => w.runPlace (.update integration)

/-- Sends an event with a newly drawn id. -/
def sendOne (w : World) (event : Event) : World :=
  let id := Text.randomId w.drawn
  ({ w with drawn := w.drawn + 1 }.outboxStep (.send id event)).2

/-- Sends events one after another. -/
def send (w : World) (events : List Event) : World :=
  if w.hasOutbox then events.foldl sendOne w else w

/-- Tells that a visitor is a known customer. -/
def identify (w : World) (userId visitor : Option String) : World :=
  if w.hasOutbox then
    match Event.identified userId visitor with
    | some event => w.sendOne event
    | none => w.say Outbox.Notice.nobodyToIdentify.record
  else w

/-- The world with other segments, and the cache in them. -/
def withCache (w : World) (cache : Cache String (List String)) : World :=
  let segments := { w.client.segments.segments with cache }
  { w with client := { w.client with segments := { w.client.segments with segments } } }

/-- The cache of segments. -/
def cache (w : World) : Cache String (List String) := w.client.segments.segments.cache

/-- The number of users whose segments are seen to be cached. -/
def cacheSize (w : World) : Nat := if w.hasCache then w.cache.size else 0

/-- Caches segments under a key. -/
def saveSegments (w : World) (key : String) (names : List String) : World :=
  if w.hasCache then w.withCache (w.cache.save w.now key names) else w

/-- Looks up the segments that are cached under a key. -/
def lookUpSegments (w : World) (key : String) : Result × World :=
  if w.hasCache then
    let (found, cache) := w.cache.lookup w.now key
    (.names found, w.withCache cache)
  else (.nothing, w)

/-- Looks once whether the service has run. -/
def runningNow (w : World) : Result :=
  match w.status.onRunning? with
  | some result => .outcome result
  | none => .pending

/-- Whether a call makes sense for what is simulated. -/
def makesSense (w : World) : CallKind → Bool
  | .flush => w.stage == .outbox
  | .stop => w.hasOutbox
  | .running => w.hasOutbox
  | .fetch _ _ _ => w.stage != .outbox
  | .senseless => false

/-- What a call is for, if it makes sense. -/
def sensible (w : World) (kind : CallKind) : CallKind :=
  if w.makesSense kind then kind else .senseless

/-- The result of an operation, and the world after it, before what is ready has run. -/
def act (w : World) : Op → Result × World
  | .start inRuntime => w.start inRuntime
  | .update integration => w.update integration
  | .send events => (.nothing, w.send events)
  | .identify userId visitor => (.nothing, w.identify userId visitor)
  | .register visitor => (.nothing, w.send [Event.initialized visitor])
  | .replaceScript true script => (.nothing, { w with queryScript := script })
  | .replaceScript false script => (.nothing, { w with eventScript := script })
  | .advance milliseconds => (.nothing, w.advance milliseconds)
  | .saveSegments key names => (.nothing, w.saveSegments key names)
  | .lookUpSegments key => w.lookUpSegments key
  | .running => if w.hasOutbox then (w.runningNow, w) else (.senseless, w)
  | .call kind => if w.makesSense kind then w.runCall kind else (.senseless, w)
  | .spawn topic kind => (.nothing, w.spawn topic (w.sensible kind))

/-- The result of an operation, and the world after it, with a chronicle of its own. -/
def apply (w : World) (op : Op) : Result × World :=
  let (result, w) := { w with chronicle := {} }.act op
  (result, w.wakeRunning.runReady)

end World

end Targeting.Simulation
