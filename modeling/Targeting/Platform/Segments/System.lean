import Targeting.Platform.Segments.Basic

/-!
# Fetching at work

Several fetches may wait for the platform at the same time, while configurations come and time passes.
What happens next is chosen from outside, one step at a time.

## Main definitions

* `System` — the segments with the fetches that wait
* `System.Label`, `System.next?` — the choices, and the step of a choice if it is possible
* `System.Report` — what a step lets the world know
-/

namespace Targeting.Platform.Segments

/-- The segments with the fetches that wait for the platform, by number. -/
structure System where
  segments : Segments
  pending : List (Nat × Pending) := []

namespace System

/-- What happens next. The platform's answer to a fetch is what `SegmentQuery.receive` makes of its
response. -/
inductive Label where
  | update (integration : Integration)
  | fetch (n : Nat) (now : Duration) (userKey userValue : String) (options : FetchOptions)
  | answer (n : Nat) (now : Duration) (result : Option (List String)) (said : List SegmentQuery.Notice)

/-- What a step lets the world know. -/
inductive Report where
  /-- Something is said. -/
  | said (notice : Notice)
  /-- The platform is asked. -/
  | asks (n : Nat) (query : SegmentQuery)
  /-- A fetch returns, with what it has found in the cache or got from the platform. -/
  | returned (n : Nat) (result : Option (List String))

/-- The step of a choice, and what it lets the world know; none if the choice is not possible. -/
def next? (s : System) : Label → Option (System × List Report)
  | .update integration => some ({ s with segments := s.segments.update integration }, [])
  | .fetch n now userKey userValue options =>
    let (begun, segments, said) := s.segments.beginFetch now userKey userValue options
    let s := { s with segments }
    let said := said.map Report.said
    match begun with
    | .done result => some (s, said ++ [.returned n result])
    | .ask pending =>
      some ({ s with pending := s.pending ++ [(n, pending)] }, said ++ [.asks n pending.query])
  | .answer n now result said => do
    let pending ← s.pending.lookup n
    let segments := s.segments.endFetch now pending result
    some ({ segments, pending := s.pending.filter (·.1 != n) },
      said.map (fun notice => .said (.asked notice)) ++ [.returned n result])

end System

end Targeting.Platform.Segments
