import Targeting.Platform.Failure

/-!
# The life of a service

A service is new, is starting, runs, is stopping and terminates; it fails when it cannot be started.
Someone who waits for it to run may look at any time and may miss states, so the status also
remembers whether the service was ever running.

## Main definitions

* `State`, `State.isFinished` — the states of a service
* `Status`, `Status.set` — a state, and whether the service was ever running
* `Status.onRunning?` — what becomes of waiting for the service to run
-/

namespace Targeting.Platform

/-- The states of a service. -/
inductive State where
  | new
  | starting
  | running
  | stopping
  | terminated
  | failed
  deriving DecidableEq

namespace State

/-- The word for a state. -/
def text : State → String
  | new => "New"
  | starting => "Starting"
  | running => "Running"
  | stopping => "Stopping"
  | terminated => "Terminated"
  | failed => "Failed"

/-- Whether nothing more will happen. -/
def isFinished : State → Bool
  | terminated => true
  | failed => true
  | _ => false

/-- All states. -/
def all : List State := [new, starting, running, stopping, terminated, failed]

theorem mem_all (s : State) : s ∈ all := by
  cases s <;> decide

end State

/-- What can be seen of a service. -/
structure Status where
  state : State := .new
  hasRun : Bool := false
  deriving DecidableEq

namespace Status

/-- The status after the service has got into a state. -/
def set (status : Status) (state : State) : Status :=
  { state, hasRun := status.hasRun || state == .running }

/-- What becomes of waiting for the service to run, as far as the status tells; none while it may
still run. -/
def onRunning? (status : Status) : Option (Except Failure Unit) :=
  if status.hasRun then some (.ok ())
  else if status.state = .failed then some (.error .startFailed)
  else if status.state.isFinished then some (.error .stopped)
  else none

@[simp] theorem state_set (status : Status) (state : State) : (status.set state).state = state :=
  rfl

end Status

end Targeting.Platform
