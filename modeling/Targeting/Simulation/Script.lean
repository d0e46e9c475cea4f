import Targeting.Platform.Duration
import Targeting.Platform.Failure
import Targeting.Platform.Http

/-!
# Scripted replies

In a simulation the platform answers from a script: its entries are used in turn, and the last one
again and again. An entry may also let time pass before the reply, or make the sender crash.

## Main definitions

* `Reply`, `Entry`, `Script` — replies, entries and scripts
* `Script.take` — the entry for the next request, and the script after it
-/

namespace Targeting.Simulation

open Targeting.Platform

/-- What becomes of a request. -/
inductive Reply where
  | received (outcome : Except Failure Response)
  | crash (message : String)

/-- A reply, and the time that is waited for it, if any is. -/
structure Entry where
  reply : Reply := .received (.ok { status := 200 })
  delay : Option Duration := none

/-- The entry that is used next, and those after it. -/
structure Script where
  first : Entry := {}
  further : List Entry := []

namespace Script

/-- The script with the given entries; without any, every request succeeds. -/
def ofList : List Entry → Script
  | [] => {}
  | e :: es => ⟨e, es⟩

/-- The entry for the next request, and the script after it. -/
def take (s : Script) : Entry × Script :=
  match s.further with
  | [] => (s.first, s)
  | e :: es => (s.first, ⟨e, es⟩)

end Script

end Targeting.Simulation
