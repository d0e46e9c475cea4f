import Targeting.Platform.Outbox.System
import Targeting.Platform.Segments.System

/-!
# The client of the platform

The client starts and stops the outbox and passes configurations on to it and to the segments. A call of
the client is not indivisible: looking at the status, setting it, taking the lock and calling the outbox
are steps of their own, and steps of other calls may come in between. A call is therefore described by
the *place* at which it stands. Only starting and configuring take the lock; stopping does not.

## Main definitions

* `Client` — the status and the configuration, with the segments and the outbox
* `Client.Place`, `Client.step?` — the places of a call, and its step from there
* `Client.run` — the steps of a call until it returns or has to wait
* `Client.userKey` — the sort of identifier of a user
-/

namespace Targeting.Platform

/-- The client, with the segments and the outbox that it looks after. -/
structure Client where
  status : Status := {}
  integration : Option Integration := none
  isLocked : Bool := false
  segments : Segments.System
  outbox : Outbox.System

namespace Client

/-- What a call returns. -/
inductive Answer where
  | started (result : Except Failure Unit)
  | stopped
  | updated (isNew : Bool)

/-- Where a call stands. -/
inductive Place where
  /-- Starting waits for the lock. -/
  | start (inRuntime : Bool)
  /-- Starting looks at the status. -/
  | startCheck (inRuntime : Bool)
  /-- Starting sets the status to starting. -/
  | startMark (inRuntime : Bool)
  /-- Starting starts the outbox. -/
  | startOutbox (inRuntime : Bool)
  /-- Starting sets the status to failed. -/
  | startFail (failure : Failure)
  /-- Starting sets the status to running. -/
  | startRun
  /-- Stopping looks at the status. -/
  | stop
  /-- Stopping sets the status to terminated, since nothing was started. -/
  | stopNew
  /-- Stopping sets the status to stopping. -/
  | stopMark
  /-- Stopping stops the outbox. -/
  | stopOutbox (wasStarted : Bool)
  /-- Stopping waits for the outbox. -/
  | stopWait (wasStarted : Bool)
  /-- Stopping sets the status to terminated. -/
  | stopEnd
  /-- Configuring waits for the lock, and compares the configuration with the one before. -/
  | update (integration : Integration)
  /-- Configuring tells the segments. -/
  | updateSegments (integration : Integration)
  /-- Configuring tells the outbox. -/
  | updateOutbox (integration : Integration)
  /-- Configuring looks at the status. -/
  | updateCheck
  /-- Configuring sets the status to running. -/
  | updateRun
  /-- The call gives the lock back. -/
  | leave (answer : Answer)
  /-- The call has returned. -/
  | done (answer : Answer)

/-- What a step lets the world know. -/
inductive Report where
  | outbox (report : Outbox.System.Report)
  | segments (report : Segments.System.Report)

variable (c : Client)

/-- Sets the status and goes on at a place. -/
def mark (state : State) (place : Place) : Option (Place × Client × List Report) :=
  some (place, { c with status := c.status.set state }, [])

/-- Takes the lock if it is free. -/
def lock? : Option Client := if c.isLocked then none else some { c with isLocked := true }

/-- The client after a step of the outbox. -/
def withOutbox (label : Outbox.System.Label) : Client × List Report :=
  match c.outbox.next? label with
  | some (outbox, reports) => ({ c with outbox }, reports.map .outbox)
  | none => (c, [])

/-- The client after a step of the segments. -/
def withSegments (label : Segments.System.Label) : Client × List Report :=
  match c.segments.next? label with
  | some (segments, reports) => ({ c with segments }, reports.map .segments)
  | none => (c, [])

/-- Where starting goes on when the outbox was started, or was not. -/
def afterOutbox (reports : List Report) : Place :=
  let failure? : Report → Option Failure
    | .outbox (.started (.error failure)) => some failure
    | _ => none
  match reports.findSome? failure? with
  | some failure => .startFail failure
  | none => if c.integration.isSome then .startRun else .leave (.started (.ok ()))

/-- The step of a call, known by a number, from its place; none if the call has to wait or has
returned. -/
def step? (n : Nat) : Place → Option (Place × Client × List Report)
  | .start inRuntime => c.lock?.map fun c => (.startCheck inRuntime, c, [])
  | .startCheck inRuntime =>
    if c.status.state = .new then some (.startMark inRuntime, c, [])
    else some (.leave (.started (.ok ())), c, [])
  | .startMark inRuntime => c.mark .starting (.startOutbox inRuntime)
  | .startOutbox inRuntime =>
    let (c, reports) := c.withOutbox (.start inRuntime)
    some (c.afterOutbox reports, c, reports)
  | .startFail failure => c.mark .failed (.leave (.started (.error failure)))
  | .startRun => c.mark .running (.leave (.started (.ok ())))
  | .stop =>
    match c.status.state with
    | .new => some (.stopNew, c, [])
    | .starting | .running => some (.stopMark, c, [])
    | _ => some (.done .stopped, c, [])
  | .stopNew => c.mark .terminated (.stopOutbox false)
  | .stopMark => c.mark .stopping (.stopOutbox true)
  | .stopOutbox wasStarted =>
    let (c, reports) := c.withOutbox (.stop n)
    some (.stopWait wasStarted, c, reports)
  | .stopWait wasStarted =>
    if (c.outbox.callers.lookup n).isSome then
      (c.outbox.next? (.resume n)).map fun (outbox, reports) =>
        (.stopWait wasStarted, { c with outbox }, reports.map .outbox)
    else some (if wasStarted then .stopEnd else .done .stopped, c, [])
  | .stopEnd => c.mark .terminated (.done .stopped)
  | .update integration =>
    c.lock?.map fun c =>
      if c.integration = some integration then (.leave (.updated false), c, [])
      else (.updateSegments integration, { c with integration := some integration }, [])
  | .updateSegments integration =>
    let (c, reports) := c.withSegments (.update integration)
    some (.updateOutbox integration, c, reports)
  | .updateOutbox integration =>
    let (c, reports) := c.withOutbox (.update integration)
    some (.updateCheck, c, reports)
  | .updateCheck =>
    some (if c.status.state = .starting then .updateRun else .leave (.updated true), c, [])
  | .updateRun => c.mark .running (.leave (.updated true))
  | .leave answer => some (.done answer, { c with isLocked := false }, [])
  | .done _ => none

/-- The steps of a call from a place until it returns or has to wait, at most `fuel` of them. -/
def runFrom (n : Nat) : (fuel : Nat) → Place → Client → Place × Client × List Report
  | 0, place, c => (place, c, [])
  | fuel + 1, place, c =>
    match c.step? n place with
    | none => (place, c, [])
    | some (place, c, reports) =>
      let (place, c, further) := runFrom n fuel place c
      (place, c, reports ++ further)

/-- The most steps that a call makes without waiting: some of its own, and one for each delivery that it
waits for. -/
def longestRun : Nat := 8 + c.outbox.outbox.handedOver + 2

/-- The steps of a call from a place until it returns or has to wait. -/
def run (n : Nat) (place : Place) : Place × Client × List Report :=
  runFrom n c.longestRun place c

/-- The beginning of the ids of visitors who are not known. -/
def visitorStart : String := "vuid_"

/-- The sort of identifier of a user, as the id tells. -/
def userKey (userId : String) : String :=
  if visitorStart.toList.isPrefixOf userId.toList then Event.visitorKey else Event.userKey

end Client

end Targeting.Platform
