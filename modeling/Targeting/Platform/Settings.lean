import Targeting.Platform.Backoff
import Targeting.Platform.Integration

/-!
# Settings

## Main definitions

* `OutboxSettings`, `CacheSettings` — how events are batched, and how segments are cached
* `requestTimeout` — how long a request may take
-/

namespace Targeting.Platform

/-- How events are batched and delivered. -/
structure OutboxSettings where
  batchSize : Nat := 10
  flushInterval : Duration := .ofSeconds 1
  queueSize : Nat := 10000
  retry : RetryRule := {}
  disposable : Bool := false
  sender : Sender := {}
  device : Option Device := none

/-- The number of events that make up a batch. A program that may end at any time sends every event
at once. -/
def OutboxSettings.fullBatch (s : OutboxSettings) : Nat :=
  if s.disposable then 1 else max 1 s.batchSize

/-- How often a batch is tried again. A program that may end at any time keeps to the standard
number. -/
def OutboxSettings.retryRule (s : OutboxSettings) : RetryRule :=
  if s.disposable then { s.retry with retries := RetryRule.standardRetries } else s.retry

/-- How segments are cached. -/
structure CacheSettings where
  capacity : Nat := 10000
  timeout : Option Duration := some (.ofSeconds 600)

/-- How long a request may take. -/
def requestTimeout : Duration := .ofSeconds 10

end Targeting.Platform
