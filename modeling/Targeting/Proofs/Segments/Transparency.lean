import Targeting.Platform.Client
import Targeting.Proofs.Segments.Epoch

/-!
# Fetching one at a time

A client that is asked for one thing after another gives each user the segments that the platform
answers with under the configuration of the moment, as if there were no cache. The cache only saves
questions: each entry is what the platform answers now, since a configuration that differs from the one
before empties the cache, and different users have different keys.

The platform is taken to answer the same question always in the same way. Otherwise an entry of the cache
might be an answer that the platform would not give again.

## Main definitions

* `Client.Request`, `Client.serveAll` — what a client is asked for, and what it lets the world know
* `Client.directly` — what would be fetched without a cache
* `Segments.Faithful` — every entry of the cache is what the platform answers now
* `Client.Follows` — a client that is idle and faithful under a configuration

## Main results

* `Segments.Faithful.beginFetch` — a fetch that does not ask has the right result already
* `Client.Follows.serve` — a request to a client that is idle and faithful
* `Client.fetches_eq_directly` — the client fetches what would be fetched without a cache
-/

namespace Targeting.Platform

/-! ### Requests -/

namespace Client

/-- What a client is asked for, or the time that passes before it is. -/
inductive Request where
  | update (integration : Integration)
  /-- Fetches the segments of a user. If the platform is asked it takes some time to answer. -/
  | fetch (userId : String) (options : Segments.FetchOptions) (delay : Duration)
  | pass (time : Duration)

/-- The question that the platform is asked. -/
def question? : Report → Option SegmentQuery
  | .segments (.asks _ query) => some query
  | _ => none

/-- The segments that a fetch returns with. -/
def returned? : Report → Option (Option (List String))
  | .segments (.returned _ result) => some result
  | _ => none

/-- All that is returned. -/
def returned (reports : List Report) : List (Option (List String)) := reports.filterMap returned?

section

variable (platform : SegmentQuery → Option (List String))

/-- Serves a request to its end, before there is another one: the time then, the client, and what it lets
the world know. -/
def serve (now : Duration) (c : Client) : Request → Duration × Client × List Report
  | .update integration => (now, (c.run 0 (.update integration)).2)
  | .fetch userId options delay =>
    let (c, begun) := c.withSegments (.fetch 0 now (userKey userId) userId options)
    match begun.findSome? question? with
    | none => (now, c, begun)
    | some query =>
      let now := now.add delay
      let (c, ended) := c.withSegments (.answer 0 now (platform query) [])
      (now, c, begun ++ ended)
  | .pass time => (now.add time, c, [])

/-- Serves requests one after another. -/
def serveAll (now : Duration) (c : Client) : List Request → List Report
  | [] => []
  | request :: requests =>
    let (now, c, reports) := c.serve platform now request
    reports ++ serveAll now c requests

/-- What is fetched without a cache: the platform's answer under a configuration. -/
def fetchDirectly (integration : Option Integration) (userId : String) : Option (List String) :=
  match integration with
  | some (.integrated config) =>
    if config.segments = [] then some []
    else platform {
      apiKey := config.apiKey
      host := config.host
      userKey := if "vuid_".toList <+: userId.toList then "vuid" else "fs_user_id"
      userValue := userId
      segments := config.segments }
  | _ => none

/-- What is fetched without a cache when there are several requests: each fetch takes the configuration of
the last update. -/
def directly (integration : Option Integration) : List Request → List (Option (List String))
  | [] => []
  | .update integration :: requests => directly (some integration) requests
  | .fetch userId _ _ :: requests =>
    fetchDirectly platform integration userId :: directly integration requests
  | .pass _ :: requests => directly integration requests

end

theorem userKey_eq (userId : String) :
    userKey userId = if "vuid_".toList <+: userId.toList then "vuid" else "fs_user_id" := by
  simp [userKey, visitorStart, Event.visitorKey, Event.userKey]

end Client

/-! ### Segments -/

namespace Segments

open Client (userKey fetchDirectly)

/-- Different users have different keys. -/
theorem eq_of_cacheKey {userId other : String}
    (same : cacheKey (userKey userId) userId = cacheKey (userKey other) other) :
    userId = other := by
  have chars := congrArg String.toList same
  rw [cacheKey, cacheKey, Client.userKey_eq, Client.userKey_eq] at chars
  -- The two sorts of users are told apart by the first letter of the key.
  split at chars <;> split at chars
  · simpa [String.toList_inj] using chars
  · simp at chars
  · simp at chars
  · simpa [String.toList_inj] using chars

variable {platform : SegmentQuery → Option (List String)} {s t : Segments}

/-- Every entry of the cache is what the platform answers under the configuration of the moment. -/
structure Faithful (platform : SegmentQuery → Option (List String)) (s : Segments) : Prop where
  coherent : s.cache.Coherent
  answers : ∀ config userId names, s.integration = some (.integrated config) →
    s.cache.Holds (cacheKey (userKey userId) userId) names →
      platform (queryFor config (userKey userId) userId) = some names

theorem endFetch_integration (s : Segments) (now : Duration) (pending : Pending)
    (result : Option (List String)) :
    (s.endFetch now pending result).integration = s.integration := by
  cases result with
  | none => rfl
  | some names =>
    simp only [endFetch]
    split <;> rfl

theorem fetchDirectly_of_asking {config : Config} (asking : config.segments ≠ [])
    (userId : String) : fetchDirectly platform (some (.integrated config)) userId =
      platform (queryFor config (userKey userId) userId) := by
  rw [fetchDirectly, if_neg asking, queryFor, Client.userKey_eq]

namespace Faithful

theorem of_keeps (h : s.Faithful platform) (keeps : Keeps s t) : t.Faithful platform where
  coherent := keeps.coherent h.coherent
  answers config userId names integrated held :=
    h.answers config userId names (keeps.integration.symm.trans integrated)
      (keeps.holds _ names held)

/-- A new configuration begins with an empty cache. -/
theorem update (s : Segments) (integration : Integration) :
    (s.update integration).Faithful platform where
  coherent := .reset s.cache
  answers _ _ _ _ held := absurd held Cache.not_holds_reset

/-- The platform's answer may be saved while the configuration is the one that it was asked under. -/
theorem endFetch (h : s.Faithful platform) {config : Config}
    (integrated : s.integration = some (.integrated config)) (now : Duration) (userId : String)
    (options : FetchOptions) :
    (s.endFetch now ⟨queryFor config (userKey userId) userId, options⟩
      (platform (queryFor config (userKey userId) userId))).Faithful platform := by
  cases answer : platform (queryFor config (userKey userId) userId) with
  | none => exact h
  | some names =>
    simp only [Segments.endFetch]
    split
    · exact h
    · refine ⟨h.coherent.save now _ names, ?_⟩
      intro current other found integrated' held
      by_cases room : s.cache.capacity = 0
      · rw [Cache.save, if_pos room] at held
        exact h.answers current other found integrated' held
      · -- What is held is what was saved now, for this user, or was there before.
        rcases held.of_save h.coherent room with ⟨key, rfl⟩ | ⟨-, before⟩
        · obtain rfl := eq_of_cacheKey key
          obtain ⟨rfl⟩ := Option.some.inj (integrated.symm.trans integrated')
          exact answer
        · exact h.answers current other found integrated' before

/-- A fetch that does not ask the platform has the right result already, from the cache or not. -/
theorem beginFetch (h : s.Faithful platform) (now : Duration) (userId : String)
    (options : FetchOptions) :
    (s.beginFetch now (userKey userId) userId options).1 =
        .done (fetchDirectly platform s.integration userId) ∨
      ∃ config, s.integration = some (.integrated config) ∧ config.segments ≠ [] ∧
        (s.beginFetch now (userKey userId) userId options).1 =
          .ask ⟨queryFor config (userKey userId) userId, options⟩ := by
  unfold Segments.beginFetch
  cases integrated : s.integration with
  | none => exact .inl rfl
  | some integration =>
    cases integration with
    | notIntegrated => exact .inl rfl
    | integrated config =>
      by_cases asking : config.segments = []
      · refine .inl ?_
        simp [fetchDirectly, asking]
      · simp only [List.isEmpty_iff, asking, if_false, beginAsking]
        rcases looked :
            s.lookup now (Pending.key ⟨queryFor config (userKey userId) userId, options⟩) options
          with ⟨_ | names, t⟩
        · exact .inr ⟨config, rfl, asking, rfl⟩
        · refine .inl ?_
          have held := holds_of_lookup (congrArg Prod.fst looked)
          rw [fetchDirectly_of_asking asking, h.answers config userId names integrated held]

end Faithful

end Segments

/-! ### The client -/

namespace Client

variable {platform : SegmentQuery → Option (List String)} {c : Client}

@[simp] theorem returned_append (before after : List Report) :
    returned (before ++ after) = returned before ++ returned after := List.filterMap_append

@[simp] theorem returned_outbox (reports : List Outbox.System.Report) :
    returned (reports.map .outbox) = [] := by
  simp [returned, returned?]

@[simp] theorem returned_said (said : List Segments.Notice) :
    returned (said.map (Report.segments ∘ .said)) = [] := by
  simp [returned, returned?]

@[simp] theorem findSome?_question?_said (said : List Segments.Notice) :
    (said.map (Report.segments ∘ .said)).findSome? question? = none := by
  rw [List.findSome?_map]
  exact List.findSome?_eq_none_iff.mpr fun _ _ => rfl

section

variable {now : Duration} {userId : String} {options : Segments.FetchOptions} {s : Segments}
  {said : List Segments.Notice}

/-- A fetch that does not ask the platform. -/
theorem serve_fetch_of_done {result : Option (List String)} (delay : Duration)
    (begun : c.segments.segments.beginFetch now (userKey userId) userId options =
      (.done result, s, said)) :
    c.serve platform now (.fetch userId options delay) =
      (now, { c with segments := { c.segments with segments := s } },
        said.map (Report.segments ∘ .said) ++
          [.segments (.returned 0 result)]) := by
  simp [serve, withSegments, Segments.System.next?, begun, question?]

/-- A fetch that asks the platform, while no other one waits for it. -/
theorem serve_fetch_of_ask {pending : Segments.Pending} (delay : Duration)
    (idle : c.segments.pending = [])
    (begun : c.segments.segments.beginFetch now (userKey userId) userId options =
      (.ask pending, s, said)) :
    let answer := platform pending.query
    c.serve platform now (.fetch userId options delay) =
      (now.add delay,
        { c with segments := { segments := s.endFetch (now.add delay) pending answer } },
        said.map (Report.segments ∘ .said) ++
          [.segments (.asks 0 pending.query), .segments (.returned 0 answer)]) := by
  simp [serve, withSegments, Segments.System.next?, begun, question?, idle]

end

/-- A client that nobody else uses is configured, in itself and in its segments, and the segments are
faithful. -/
structure Follows (platform : SegmentQuery → Option (List String)) (c : Client)
    (integration : Option Integration) : Prop where
  unlocked : c.isLocked = false
  configured : c.integration = integration
  told : c.segments.segments.integration = integration
  idle : c.segments.pending = []
  faithful : c.segments.segments.Faithful platform

/-- A call that nobody disturbs takes the configuration on, unless it is the one before. -/
theorem run_update (unlocked : c.isLocked = false) (n : Nat) (integration : Integration) :
    ∃ (status : Status) (outbox : Outbox.System) (reports : List Outbox.System.Report),
      (c.run n (.update integration)).2 =
      ({ c with
        status, outbox
        integration := some integration
        segments :=
          if c.integration = some integration then c.segments
          else { c.segments with segments := c.segments.segments.update integration } },
        reports.map .outbox) := by
  -- The call makes at most six steps, and a seventh finds it returned.
  have enough : c.longestRun = c.outbox.outbox.handedOver + 3 + 7 := by
    unfold longestRun
    omega
  rw [run, enough]
  by_cases same : c.integration = some integration
  · refine ⟨c.status, c.outbox, [], ?_⟩
    simp [runFrom, step?, lock?, unlocked, same]
  · obtain ⟨outbox, reports, told⟩ :
        ∃ outbox reports, c.outbox.next? (.update integration) = some (outbox, reports) :=
      ⟨_, _, rfl⟩
    by_cases starting : c.status.state = .starting
    · refine ⟨c.status.set .running, outbox, reports, ?_⟩
      simp [runFrom, step?, lock?, unlocked, same, withSegments, Segments.System.next?, withOutbox,
        told, starting, mark]
    · refine ⟨c.status, outbox, reports, ?_⟩
      simp [runFrom, step?, lock?, unlocked, same, withSegments, Segments.System.next?, withOutbox,
        told, starting]

namespace Follows

variable {integration : Option Integration}

theorem update (h : c.Follows platform integration) (next : Integration) :
    returned (c.run 0 (.update next)).2.2 = [] ∧
      (c.run 0 (.update next)).2.1.Follows platform (some next) := by
  obtain ⟨status, outbox, reports, run⟩ := run_update h.unlocked 0 next
  rw [run]
  refine ⟨returned_outbox reports, ?_⟩
  -- The segments are told only if the configuration is another one.
  split
  · next same =>
    have current : integration = some next := h.configured.symm.trans same
    exact ⟨h.unlocked, rfl, h.told.trans current, h.idle, h.faithful⟩
  · exact ⟨h.unlocked, rfl, rfl, h.idle, .update _ next⟩

theorem fetch (h : c.Follows platform integration) (now : Duration) (userId : String)
    (options : Segments.FetchOptions) (delay : Duration) :
    returned (c.serve platform now (.fetch userId options delay)).2.2 =
        [fetchDirectly platform integration userId] ∧
      (c.serve platform now (.fetch userId options delay)).2.1.Follows platform integration := by
  have keeps := Segments.Keeps.beginFetch c.segments.segments now (userKey userId) userId options
  rcases begun : c.segments.segments.beginFetch now (userKey userId) userId options with
    ⟨begun', s, said⟩
  rw [begun] at keeps
  have faithful := h.faithful.of_keeps keeps
  have told := keeps.integration.trans h.told
  rcases h.faithful.beginFetch now userId options with done | ⟨config, integrated, asking, ask⟩
  · -- The fetch returns at once, and the cache holds nothing new.
    rw [begun, h.told] at done
    obtain rfl : begun' = _ := done
    rw [serve_fetch_of_done delay begun, returned_append, returned_said]
    exact ⟨rfl, h.unlocked, h.configured, told, h.idle, faithful⟩
  · rw [begun] at ask
    obtain rfl : begun' = _ := ask
    have answer : fetchDirectly platform integration userId =
        platform (Segments.queryFor config (userKey userId) userId) := by
      rw [← h.told, integrated, Segments.fetchDirectly_of_asking asking]
    rw [serve_fetch_of_ask delay h.idle begun, returned_append, returned_said, answer]
    -- Nothing comes in between, so the answer is saved under the configuration it was asked for.
    have kept := keeps.integration.trans integrated
    exact ⟨rfl, h.unlocked, h.configured, (Segments.endFetch_integration ..).trans told, rfl,
      faithful.endFetch kept _ userId options⟩

/-- A request to a client that follows a configuration: what is returned is what would be fetched without
a cache, and the client goes on to follow the configuration, or follows a new one. -/
theorem serve (h : c.Follows platform integration) (now : Duration) (request : Request)
    (later : List Request) :
    ∃ next, (c.serve platform now request).2.1.Follows platform next ∧
      directly platform integration (request :: later) =
        returned (c.serve platform now request).2.2 ++ directly platform next later := by
  cases request with
  | update next =>
    obtain ⟨silent, follows⟩ := h.update next
    refine ⟨some next, follows, ?_⟩
    rw [Client.serve, silent]
    rfl
  | fetch userId options delay =>
    obtain ⟨result, follows⟩ := h.fetch now userId options delay
    refine ⟨integration, follows, ?_⟩
    rw [result]
    rfl
  | pass time => exact ⟨integration, h, rfl⟩

theorem returned_serveAll (h : c.Follows platform integration) (now : Duration)
    (requests : List Request) :
    returned (c.serveAll platform now requests) = directly platform integration requests := by
  induction requests generalizing c integration now with
  | nil => rfl
  | cons request requests ih =>
    obtain ⟨next, follows, split⟩ := h.serve now request requests
    rw [serveAll, returned_append, ih follows, split]

end Follows

/-- A client that has not been configured yet fetches, whatever it is asked for one after another, what
would be fetched without a cache: for each fetch it returns once, with nothing as long as the project is
not known to be integrated, with no segments if the project asks for none, and else with what the
platform answers under the configuration of the moment. -/
theorem fetches_eq_directly (platform : SegmentQuery → Option (List String)) (capacity : Nat)
    (timeout : Option Duration) (status : Status) (outbox : Outbox.System) (start : Duration)
    (requests : List Request) :
    let c : Client := { status, segments := Segments.System.fresh capacity timeout, outbox }
    returned (c.serveAll platform start requests) = directly platform none requests := by
  intro c
  have follows : c.Follows platform none :=
    ⟨rfl, rfl, rfl, rfl, Segments.System.coherent_fresh capacity timeout, by rintro _ _ _ ⟨⟩⟩
  exact follows.returned_serveAll start requests

end Client

end Targeting.Platform
