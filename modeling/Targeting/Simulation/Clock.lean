import Targeting.Simulation.Turn

/-!
# Letting the simulated world run

## Main definitions

* `World.step`, `World.runReady` — one turn, and all turns that are taken while no time passes
* `World.advance` — lets some time pass
* `World.runCall` — lets time pass until the call in the foreground has returned
* `World.spawn` — starts a call in the background
-/

namespace Targeting.Simulation

open Targeting.Platform

namespace World

/-! ### Rounds

Tasks take their turns in rounds. Between two rounds the tasks that have given way become ready
again, the last one first, and the call in the foreground goes on. -/

/-- The turns in a round, unless no task is ready any more. -/
def turnsPerRound : Nat := 61

/-- Whether the call in the foreground can go on. -/
def canGoOn (w : World) : Bool :=
  match w.foreground, w.result with
  | some n, none =>
    match (w.calls.lookup n).map Call.wait with
    | some .deliveries => (w.client.outbox.next? (.resume n)).isSome
    | some (.client place) => (w.client.step? n place).isSome
    | some .running => w.status.onRunning?.isSome
    | _ => false
  | _, _ => false

/-- Goes on with the call in the foreground. -/
def runForeground (w : World) : World :=
  match w.foreground, w.result with
  | some n, none => ({ w with passes := passesPerTurn }.resume n).wakeRunning
  | _, _ => w

/-- The beginning of a round. -/
def nextRound (w : World) : World :=
  { w with turns := 0, ready := w.ready ++ w.deferred, deferred := [] }.runForeground

/-- The next turn of this round, or the beginning of another one. -/
def step (w : World) : World :=
  match w.ready with
  | [] => w.nextRound
  | job :: rest =>
    if w.turns < turnsPerRound then
      { w with ready := rest, turns := w.turns + 1 }.runJob job
    else w.nextRound

/-- Whether nothing more happens while no time passes, or the call in the foreground has returned.
-/
def isAtRest (w : World) : Bool :=
  w.result.isSome || w.ready.isEmpty && w.deferred.isEmpty && !w.canGoOn

/-- Lets tasks run until nothing more happens, at most `fuel` steps. -/
def runSteps : (fuel : Nat) → World → World
  | 0, w => w
  | fuel + 1, w => if w.isAtRest then w else runSteps fuel w.step

/-- The attempts that may still be made, with those of one delivery more. -/
def attemptsAhead (w : World) : Nat :=
  w.client.outbox.deliveries.foldl (fun n (batch, _) => n + w.attemptsLeft batch)
    w.client.outbox.settings.retryRule.attempts

/-- More steps than can follow without time passing: each delivery goes on at least by one attempt
in its turn, and a delivery that ends may wake every call. -/
def stepLimit (w : World) : Nat :=
  let tasks := w.ready.length + w.deferred.length + w.calls.length
    + w.client.outbox.deliveries.length + w.attemptsAhead + 2
  8 * tasks * tasks

/-- Lets tasks run until nothing more happens. -/
def runReady (w : World) : World := runSteps w.stepLimit { w with turns := 0 }

/-! ### Time passes -/

/-- The earliest of some deadlines. -/
def earliest : List Sleeper → Option Duration
  | [] => none
  | s :: rest =>
    match earliest rest with
    | none => some s.deadline
    | some d => some (s.deadline.min d)

/-- The world when a deadline comes: those who have waited for it become ready, and the call in the
foreground goes on before the others. -/
def reach (w : World) (deadline : Duration) : World :=
  let due := (w.sleepers.filter (·.deadline == deadline)).map Sleeper.job
  (due.filter w.isForeground).foldl runJob
    { w with
      now := deadline
      sleepers := w.sleepers.filter (·.deadline != deadline)
      ready := w.ready ++ due.filter (!w.isForeground ·) }

/-- Lets the clock go on to the deadlines up to a time, one after another, at most `fuel` of them.
-/
def runUntil (time : Duration) : (fuel : Nat) → World → World
  | 0, w => w
  | fuel + 1, w =>
    match earliest w.sleepers with
    | none => w
    | some deadline =>
      if deadline.le time then runUntil time fuel (w.reach deadline).runReady else w

/-- Lets some milliseconds pass, but no more than the longest sleep. Deadlines are whole
milliseconds, so there are no more of them on the way than milliseconds. -/
def advance (w : World) (milliseconds : Nat) : World :=
  let time := w.now.add ((Duration.ofMilliseconds milliseconds).min longestSleep)
  { runUntil time (milliseconds + 1) w with now := time }

/-! ### The foreground -/

/-- Lets tasks run, moving the clock on when nothing more happens, until the call in the foreground
has returned; at most `fuel` times. -/
def runWait : (fuel : Nat) → World → World
  | 0, w => w
  | fuel + 1, w =>
    let w := w.runReady
    if w.result.isSome then w
    else
      match earliest w.sleepers with
      | none => w
      | some deadline => runWait fuel (w.reach deadline)

/-- More deadlines than a call can wait for: two for each attempt that is left, and one for each
task that waits already. -/
def deadlines (w : World) : Nat := 2 * w.attemptsAhead + w.sleepers.length + 4

/-- Lets a call run in the foreground until it has returned, and the tasks that are ready then. -/
def runCall (w : World) (kind : CallKind) : Result × World :=
  let n := w.callCount
  let w := { w with
    callCount := n + 1, foreground := some n, result := none, passes := passesPerTurn }
  let w := (w.beginCall n "" kind).wakeRunning
  let w := runWait w.deadlines w
  let result := w.result.getD .pending
  (result, { w with foreground := none, result := none }.runReady)

/-- Starts a call in the background, and lets the tasks run that are ready. -/
def spawn (w : World) (topic : Topic) (kind : CallKind) : World :=
  let n := w.callCount
  ({ w with callCount := n + 1 }.push (.begin n topic kind)).runReady

end World

end Targeting.Simulation
