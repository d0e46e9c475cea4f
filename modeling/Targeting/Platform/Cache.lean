import Std.Data.TreeMap
import Targeting.Platform.Duration

/-!
# A cache of the most recently used entries

The cache holds a limited number of entries and drops the one that was not used for the longest time.
An entry also expires some time after it was saved, however often it is used. Each use draws a new
number from a counter, and the numbers are kept in order, so that the smallest one belongs to the
entry to drop.

## Main definitions

* `Cache` — entries by key, and keys by the number of their last use
* `Cache.save`, `Cache.lookup`, `Cache.reset` — the operations
-/

namespace Targeting.Platform

/-- What is saved under a key, when, and the number of its last use. -/
structure Cache.Entry (ν : Type) where
  value : ν
  savedAt : Duration
  use : Nat

/-- A cache of the most recently used entries. -/
structure Cache (κ ν : Type) [Ord κ] where
  capacity : Nat
  timeout : Option Duration
  entries : Std.TreeMap κ (Cache.Entry ν) := ∅
  recency : Std.TreeMap Nat κ := ∅
  uses : Nat := 0

namespace Cache

variable {κ ν : Type} [Ord κ]

/-- The number of entries. -/
def size (c : Cache κ ν) : Nat := c.entries.size

/-- Whether there are no entries. -/
def isEmpty (c : Cache κ ν) : Bool := c.size == 0

/-- Whether an entry has been there too long. -/
def isExpired (c : Cache κ ν) (now : Duration) (entry : Entry ν) : Bool :=
  c.timeout.any fun timeout => timeout.nanoseconds ≤ now.nanoseconds - entry.savedAt.nanoseconds

/-- The cache without an entry. -/
def remove (c : Cache κ ν) (key : κ) : Cache κ ν :=
  match c.entries.get? key with
  | some entry =>
    { c with entries := c.entries.erase key, recency := c.recency.erase entry.use }
  | none => c

/-- The cache with an entry under a key that it does not hold, as the one used last. -/
def add (c : Cache κ ν) (now : Duration) (key : κ) (value : ν) : Cache κ ν :=
  let use := c.uses + 1
  { c with
    entries := c.entries.insert key ⟨value, now, use⟩
    recency := c.recency.insert use key
    uses := use }

/-- The cache without the entry that was not used for the longest time. -/
def dropOldest? (c : Cache κ ν) : Option (Cache κ ν) :=
  c.recency.minKey?.bind fun use =>
    (c.recency.get? use).map fun key =>
      { c with entries := c.entries.erase key, recency := c.recency.erase use }

/-- Drops oldest entries while there are too many. -/
def trim : (fuel : Nat) → Cache κ ν → Cache κ ν
  | 0, c => c
  | fuel + 1, c =>
    if c.capacity < c.size then
      match c.dropOldest? with
      | some c => c.trim fuel
      | none => c
    else c

/-- Saves a value under a key at a time. A cache without room saves nothing. -/
def save (c : Cache κ ν) (now : Duration) (key : κ) (value : ν) : Cache κ ν :=
  if c.capacity = 0 then c
  else
    -- What stood under the key makes room first, so saving it again drops nothing else.
    let c := (c.remove key).add now key value
    c.trim c.size

/-- The cache with an entry marked as the one used last. -/
def touch (c : Cache κ ν) (key : κ) (entry : Entry ν) : Cache κ ν :=
  let use := c.uses + 1
  { c with
    entries := c.entries.insert key { entry with use }
    recency := (c.recency.erase entry.use).insert use key
    uses := use }

/-- The value under a key at a time. Finding it is a use; an expired one is removed. -/
def lookup (c : Cache κ ν) (now : Duration) (key : κ) : Option ν × Cache κ ν :=
  match c.entries.get? key with
  | none => (none, c)
  | some entry =>
    if c.isExpired now entry then (none, c.remove key) else (some entry.value, c.touch key entry)

/-- The cache without any entries; the counter of uses goes on. -/
def reset (c : Cache κ ν) : Cache κ ν := { c with entries := ∅, recency := ∅ }

end Cache

end Targeting.Platform
