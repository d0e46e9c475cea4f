/-!
# Durations

A span of time is a whole number of nanoseconds. What can be stored is limited: the seconds must fit
into sixty-four bits.

## Main definitions

* `Duration` — spans of time
* `Duration.ofParts`, `Duration.seconds`, `Duration.rest` — seconds, and the nanoseconds beside them
* `Duration.double?`, `Duration.add?` — twice a span, and the sum of two, if it can be stored
-/

namespace Targeting.Platform

/-- A span of time. -/
structure Duration where
  nanoseconds : Nat
  deriving DecidableEq

namespace Duration

/-- The nanoseconds in a second. -/
def perSecond : Nat := 1000000000

/-- The nanoseconds in a millisecond. -/
def perMillisecond : Nat := 1000000

/-- The first number of nanoseconds that cannot be stored. -/
def limit : Nat := Nat.pow 2 64 * perSecond

/-- No time at all. -/
def none : Duration := ⟨0⟩

/-- A number of seconds and a number of nanoseconds. -/
def ofParts (seconds rest : Nat) : Duration := ⟨seconds * perSecond + rest⟩

/-- A number of seconds. -/
def ofSeconds (n : Nat) : Duration := ofParts n 0

/-- A number of milliseconds. -/
def ofMilliseconds (n : Nat) : Duration := ⟨n * perMillisecond⟩

/-- The whole milliseconds. -/
def milliseconds (d : Duration) : Nat := d.nanoseconds / perMillisecond

/-- The whole seconds. -/
def seconds (d : Duration) : Nat := d.nanoseconds / perSecond

/-- The nanoseconds beside the whole seconds. -/
def rest (d : Duration) : Nat := d.nanoseconds % perSecond

/-- Both spans, one after the other. -/
def add (d e : Duration) : Duration := ⟨d.nanoseconds + e.nanoseconds⟩

/-- The shorter span. -/
def min (d e : Duration) : Duration := if d.nanoseconds ≤ e.nanoseconds then d else e

/-- Twice the span; none if it cannot be stored. -/
def double? (d : Duration) : Option Duration :=
  if 2 * d.nanoseconds < limit then some ⟨2 * d.nanoseconds⟩ else .none

/-- Both spans, one after the other; none if this cannot be stored. -/
def add? (d e : Duration) : Option Duration :=
  if d.nanoseconds + e.nanoseconds < limit then some (d.add e) else .none

/-- Whether a span is at most as long as another one. -/
def le (d e : Duration) : Bool := d.nanoseconds ≤ e.nanoseconds

@[simp] theorem ofParts_seconds_rest (d : Duration) : ofParts d.seconds d.rest = d := by
  simp only [ofParts, seconds, rest, Nat.div_add_mod']

@[simp] theorem nanoseconds_min (d e : Duration) :
    (d.min e).nanoseconds = Min.min d.nanoseconds e.nanoseconds := by
  unfold min
  split
  · next le => exact (Nat.min_eq_left le).symm
  · next gt => exact (Nat.min_eq_right (Nat.le_of_not_le gt)).symm

end Duration

end Targeting.Platform
