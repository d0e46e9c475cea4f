import Targeting.Platform.Cache
import Targeting.Platform.Integration
import Targeting.Platform.SegmentQuery

/-!
# The segments of users

The segments that a user qualifies for are fetched from the platform and kept in a cache. A new
configuration empties the cache. Fetching has a step before the platform is asked and a step after it has
answered; in between anything may happen.

## Main definitions

* `Segments` — the configuration and the cache
* `Segments.update` — a new configuration
* `Segments.beginFetch`, `Segments.endFetch` — the two steps of fetching
-/

namespace Targeting.Platform

/-- The configuration under which segments are fetched, and the cache. -/
structure Segments where
  integration : Option Integration := none
  cache : Cache String (List String)

namespace Segments

/-- How a single fetch treats the cache. -/
structure FetchOptions where
  ignoreCache : Bool := false
  resetCache : Bool := false
  deriving DecidableEq

/-- What is said while segments are fetched. -/
inductive Notice where
  /-- The project is not integrated. -/
  | notIntegrated
  /-- There is no configuration yet. -/
  | notReady
  /-- The project asks for no segments. -/
  | nothingToFetch
  /-- The user's segments are in the cache. -/
  | cached (userKey userValue : String)
  /-- The platform is going to be asked for the user's segments. -/
  | fetching (userKey userValue : String)
  /-- What comes of asking. -/
  | asked (notice : SegmentQuery.Notice)

/-- The record of a notice. -/
def Notice.record : Notice → Log.Record
  | notIntegrated => ⟨.warn, "ODP is not integrated, can't fetch qualified segments", []⟩
  | notReady => ⟨.warn, "ODP config is not ready, can't fetch qualified segments", []⟩
  | nothingToFetch => ⟨.debug, "no segments are used in the project, skipping fetch", []⟩
  | cached userKey userValue =>
    ⟨.debug, "qualified segments found in cache",
      [("user_key", userKey), ("user_value", userValue)]⟩
  | fetching userKey userValue =>
    ⟨.debug, "fetching qualified segments", [("user_key", userKey), ("user_value", userValue)]⟩
  | asked notice => notice.record

/-- The key under which the segments of a user are cached. -/
def cacheKey (userKey userValue : String) : String := userKey ++ "-$-" ++ userValue

/-- A fetch that waits for the platform's answer. -/
structure Pending where
  query : SegmentQuery
  options : FetchOptions
  deriving DecidableEq

/-- The key under which the answer is cached. -/
def Pending.key (p : Pending) : String := cacheKey p.query.userKey p.query.userValue

/-- What becomes of beginning to fetch: there is a result already, or the platform has to be asked. -/
inductive Begun where
  | done (result : Option (List String))
  | ask (pending : Pending)

/-- Takes on a configuration. The cache is emptied even if the configuration is the one before. -/
def update (integration : Integration) (s : Segments) : Segments :=
  { integration := some integration, cache := s.cache.reset }

/-- The question for a user's segments. -/
def queryFor (config : Config) (userKey userValue : String) : SegmentQuery :=
  { apiKey := config.apiKey, host := config.host, userKey, userValue, segments := config.segments }

/-- Looks up what is cached, unless the cache is ignored. -/
def lookup (s : Segments) (now : Duration) (key : String) (options : FetchOptions) :
    Option (List String) × Segments :=
  -- A fetch that ignores the cache may still ask for it to be emptied.
  let cache := if options.resetCache then s.cache.reset else s.cache
  if options.ignoreCache then (none, { s with cache })
  else
    let (found, cache) := cache.lookup now key
    (found, { s with cache })

/-- Begins to fetch a user's segments under a configuration that asks for some. -/
def beginAsking (s : Segments) (now : Duration) (query : SegmentQuery) (options : FetchOptions) :
    Begun × Segments × List Notice :=
  let pending : Pending := { query, options }
  match s.lookup now pending.key options with
  | (some names, s) => (.done (some names), s, [.cached query.userKey query.userValue])
  | (none, s) => (.ask pending, s, [.fetching query.userKey query.userValue])

/-- Begins to fetch a user's segments. -/
def beginFetch (s : Segments) (now : Duration) (userKey userValue : String)
    (options : FetchOptions) : Begun × Segments × List Notice :=
  match s.integration with
  | none => (.done none, s, [.notReady])
  | some .notIntegrated => (.done none, s, [.notIntegrated])
  | some (.integrated config) =>
    if config.segments.isEmpty then (.done (some []), s, [.nothingToFetch])
    else s.beginAsking now (queryFor config userKey userValue) options

/-- Ends a fetch with what came of asking. Nothing is cached if nothing came, or if the cache is
ignored. -/
def endFetch (s : Segments) (now : Duration) (pending : Pending) (result : Option (List String)) :
    Segments :=
  match result with
  | some names =>
    -- The configuration is not looked at again, although it may be another one by now.
    if pending.options.ignoreCache then s
    else { s with cache := s.cache.save now pending.key names }
  | none => s

end Segments

end Targeting.Platform
