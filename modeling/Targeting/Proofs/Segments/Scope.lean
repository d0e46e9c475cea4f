import Targeting.Proofs.Segments.Outcome
import Targeting.Proofs.Segments.Sharing

/-!
# Segments that were not asked for

The platform is asked about some segments, and it is left to the platform to answer about these only.
What it says about other segments is taken over: the segments that come of an answer are compared neither
with the question nor with the configuration. So the segments of a project are the only ones that a fetch
returns with exactly if the platform keeps to its questions, and this is as true of what comes from the
cache, which holds nothing but answers to questions of the same configuration.

## Main definitions

* `SegmentQuery.StaysWithin` — only segments of the question come of it
* `SegmentQuery.IsKeptBy` — a response qualifies nobody for a segment outside of the question
* `Segments.Job`, `System.fetches` — things done one after another, and the fetches among them
* `System.Fetched.IsConfigured` — a fetch returns with segments of the configuration that it began under
* `System.Fetched.IsKept` — the platform has kept to the question of a fetch

## Main results

* `SegmentQuery.staysWithin_iff` — when only segments of a question come of it
* `System.Ready.fetch` — the same for a fetch, while the cache is confined to the configuration
* `System.onlyConfigured_iff` — questions and fetches stay within their segments exactly if the platform does
* `System.not_onlyConfigured_of_silver` — an answer with a segment that was not asked for
-/

namespace Targeting.Platform

/-! ### Questions -/

namespace SegmentQuery

/-- Whatever becomes of a request, only segments that the question asks for come of it. -/
def StaysWithin (q : SegmentQuery) (send : Request → Except Failure Response) : Prop :=
  ∀ names, (q.fetch send).1 = some names → names ⊆ q.segments

/-- The segments in a response are segments that the question asks for. -/
def IsKeptBy (q : SegmentQuery) (outcome : Except Failure Response) : Prop :=
  ∀ response names, outcome = .ok response → Answers response.body names → names ⊆ q.segments

variable {q : SegmentQuery} {outcome : Except Failure Response} {names : List String}

/-- What comes of a response is within the question exactly if the response is. -/
theorem isKeptBy_iff :
    q.IsKeptBy outcome ↔ ∀ names, (receive outcome).1 = some names → names ⊆ q.segments := by
  constructor
  · intro kept names came
    obtain ⟨response, rfl, answers⟩ := receive_fst_eq_some_iff.mp came
    exact kept response names rfl answers
  · intro within response names responded answers
    exact within names (receive_fst_eq_some_iff.mpr ⟨response, responded, answers⟩)

/-- Only segments of a question come of it exactly if there are none, so that nothing is asked, or the
platform keeps to the question. -/
theorem staysWithin_iff (send : Request → Except Failure Response) :
    q.StaysWithin send ↔ q.segments = [] ∨ q.IsKeptBy (send q.request) := by
  by_cases asks : q.segments = []
  · refine iff_of_true (fun names came => ?_) (.inl asks)
    have trivial : q.fetch send = (some [], []) := by simp [fetch, isTrivial, asks]
    rw [trivial] at came
    rw [← Option.some.inj came]
    exact List.nil_subset _
  · rw [StaysWithin, fetch_of_asking asks, ← isKeptBy_iff]
    simp [asks]

end SegmentQuery

namespace Segments

/-- Something that is done with the segments from its beginning to its end: a configuration is taken on,
or the segments of a customer are fetched. The outcome of a request is passed over if the platform is not
asked. -/
inductive Job where
  | update (integration : Integration)
  | fetch (customer : Customer) (options : FetchOptions) (begins ends : Duration)
      (outcome : Except Failure Response)

/-- The choices of a job. -/
def Job.labels : Job → List System.Label
  | .update integration => [.update integration]
  | .fetch u options begins ends outcome =>
    let came := SegmentQuery.receive outcome
    [.fetch 0 begins u.userKey u.userValue options, .answer 0 ends came.1 came.2]

/-- What becomes of beginning to fetch, with the configuration that it depends on. -/
inductive Opens (s : Segments) (u : Customer) (options : FetchOptions) : Begun → Prop
  | nothing : Opens s u options (.done none)
  | unasked (config : Config) (integrated : s.integration = some (.integrated config)) :
      Opens s u options (.done (some []))
  | found (config : Config) (integrated : s.integration = some (.integrated config))
      (names : List String) (held : s.cache.Holds u.cacheKey names) :
      Opens s u options (.done (some names))
  | asks (config : Config) (integrated : s.integration = some (.integrated config)) :
      Opens s u options (.ask ⟨queryFor config u.userKey u.userValue, options⟩)

theorem opens_beginFetch (s : Segments) (now : Duration) (u : Customer) (options : FetchOptions) :
    Opens s u options (s.beginFetch now u.userKey u.userValue options).1 := by
  unfold beginFetch
  split
  · exact .nothing
  · exact .nothing
  · next config integrated =>
    split
    · exact .unasked config integrated
    · have key : Pending.key ⟨queryFor config u.userKey u.userValue, options⟩ = u.cacheKey := rfl
      simp only [beginAsking, key]
      rcases looked : s.lookup now u.cacheKey options with ⟨_ | names, t⟩
      · exact .asks config integrated
      · exact .found config integrated names (holds_of_lookup (congrArg Prod.fst looked))

/-- All that the cache holds are segments of the configuration of the moment. -/
structure Confined (s : Segments) : Prop where
  coherent : s.cache.Coherent
  within : ∀ config key names, s.integration = some (.integrated config) →
    s.cache.Holds key names → names ⊆ config.segments

namespace Confined

variable {s t : Segments}

theorem of_keeps (h : s.Confined) (keeps : Keeps s t) : t.Confined where
  coherent := keeps.coherent h.coherent
  within config key names integrated held :=
    h.within config key names (keeps.integration.symm.trans integrated) (keeps.holds key names held)

/-- A new configuration begins with an empty cache. -/
theorem update (s : Segments) (integration : Integration) : (s.update integration).Confined where
  coherent := .reset s.cache
  within _ _ _ _ held := absurd held Cache.not_holds_reset

/-- An answer may be saved that is within the configuration of the moment. -/
theorem endFetch (h : s.Confined) (now : Duration) (pending : Pending)
    {result : Option (List String)}
    (within : ∀ config names, s.integration = some (.integrated config) → result = some names →
      names ⊆ config.segments) : (s.endFetch now pending result).Confined := by
  cases result with
  | none => exact h
  | some names =>
    simp only [Segments.endFetch]
    split
    · exact h
    · refine ⟨h.coherent.save now _ names, ?_⟩
      intro config key found integrated held
      by_cases room : s.cache.capacity = 0
      · rw [Cache.save, if_pos room] at held
        exact h.within config key found integrated held
      · rcases held.of_save h.coherent room with ⟨-, rfl⟩ | ⟨-, before⟩
        · exact within config found integrated rfl
        · exact h.within config key found integrated before

end Confined

namespace System

/-! ### Fetches one after another -/

/-- A question that the platform is asked. -/
def asked? : Report → Option SegmentQuery
  | .asks _ query => some query
  | _ => none

/-- What a fetch returns with. -/
def returned? : Report → Option (Option (List String))
  | .returned _ result => some result
  | _ => none

/-- What is known of a fetch when it is over: the configuration that it began under, the question if the
platform was asked, the outcome of the request then, and what it has returned with. -/
structure Fetched where
  integration : Option Integration
  question : Option SegmentQuery
  outcome : Except Failure Response
  result : Option (Option (List String))

/-- All that a job lets the world know. -/
def reports (s : System) (job : Job) : List Report :=
  (Run.steps next? s job.labels).flatMap Step.reports

/-- What is known of a job when it is over, if it is a fetch. -/
def fetched? (s : System) (job : Job) : Option Fetched :=
  match job with
  | .update _ => none
  | .fetch _ _ _ _ outcome => some {
      integration := s.segments.integration
      question := (s.reports job).findSome? asked?
      outcome
      result := (s.reports job).findSome? returned? }

/-- The fetches among some jobs that are done one after another. -/
def fetches (s : System) : List Job → List Fetched
  | [] => []
  | job :: jobs => (s.fetched? job).toList ++ fetches (Run.final next? s job.labels) jobs

namespace Fetched

/-- A fetch that returns with segments returns with such as are configured in the integration that it began
under. -/
def IsConfigured (fetched : Fetched) : Prop :=
  ∀ names, fetched.result = some (some names) → ∀ name ∈ names,
    ∃ config, fetched.integration = some (.integrated config) ∧ name ∈ config.segments

/-- If the platform was asked, it has kept to the question. -/
def IsKept (fetched : Fetched) : Prop :=
  ∀ query, fetched.question = some query → query.IsKeptBy fetched.outcome

end Fetched

section Idle

variable {s : System} {u : Customer} {options : FetchOptions} {begins : Duration} {t : Segments}
  {said : List Notice}

/-- What is said on the way does not count. -/
theorem findSome?_of_silent {β : Type} {read : Report → Option β} {before : List Report}
    (silent : ∀ report ∈ before, read report = none) (after : List Report) :
    (before ++ after).findSome? read = after.findSome? read := by
  rw [List.findSome?_append, List.findSome?_eq_none_iff.mpr silent, Option.none_or]

variable (idle : s.pending = []) (ends : Duration) (outcome : Except Failure Response)
include idle

/-- A fetch that does not ask the platform. -/
theorem fetched?_of_done {result : Option (List String)}
    (begun : s.segments.beginFetch begins u.userKey u.userValue options = (.done result, t, said)) :
    s.fetched? (.fetch u options begins ends outcome) =
        some ⟨s.segments.integration, none, outcome, some result⟩ ∧
      Run.final next? s (Job.fetch u options begins ends outcome).labels = { segments := t } := by
  have told : s.reports (.fetch u options begins ends outcome) =
      said.map .said ++ [.returned 0 result] := by
    simp [reports, Job.labels, Run.steps, next?, begun, idle]
  constructor
  · simp only [fetched?, told]
    rw [findSome?_of_silent (by simp [asked?]), findSome?_of_silent (by simp [returned?])]
    rfl
  · simp [Job.labels, Run.final, next?, begun, idle]

/-- A fetch that asks the platform. -/
theorem fetched?_of_ask {pending : Pending}
    (begun : s.segments.beginFetch begins u.userKey u.userValue options = (.ask pending, t, said)) :
    let came := SegmentQuery.receive outcome
    s.fetched? (.fetch u options begins ends outcome) =
        some ⟨s.segments.integration, some pending.query, outcome, some came.1⟩ ∧
      Run.final next? s (Job.fetch u options begins ends outcome).labels =
        { segments := t.endFetch ends pending came.1 } := by
  intro came
  have told : s.reports (.fetch u options begins ends outcome) =
      said.map .said ++ .asks 0 pending.query ::
        (came.2.map (fun notice => .said (.asked notice)) ++ [.returned 0 came.1]) := by
    simp [reports, Job.labels, Run.steps, next?, begun, idle, came]
  have question : (s.reports (.fetch u options begins ends outcome)).findSome? asked? =
      some pending.query := by
    rw [told, findSome?_of_silent (by simp [asked?])]
    rfl
  have result : (s.reports (.fetch u options begins ends outcome)).findSome? returned? =
      some came.1 := by
    rw [told, findSome?_of_silent (by simp [returned?]), List.findSome?_cons_of_isNone rfl,
      findSome?_of_silent (by simp [returned?])]
    rfl
  constructor
  · simp only [fetched?, question, result]
  · simp [Job.labels, Run.final, next?, begun, idle, came]

end Idle

/-- No fetch waits, and the cache is confined to the configuration of the moment. -/
structure Ready (s : System) : Prop where
  idle : s.pending = []
  confined : s.segments.Confined

namespace Ready

variable {s : System}

theorem fresh (capacity : Nat) (timeout : Option Duration) : (fresh capacity timeout).Ready where
  idle := rfl
  confined := ⟨coherent_fresh capacity timeout,
    fun _ key names _ held => absurd held (not_holds_fresh capacity timeout key names)⟩

/-- A fetch returns with configured segments exactly if the platform keeps to its question, and if it does
then all is as before. -/
theorem fetch (h : s.Ready) (u : Customer) (options : FetchOptions) (begins ends : Duration)
    (outcome : Except Failure Response) :
    let job := Job.fetch u options begins ends outcome
    ∃ fetched, s.fetched? job = some fetched ∧ (fetched.IsConfigured ↔ fetched.IsKept) ∧
      (fetched.IsKept → (Run.final next? s job.labels).Ready) := by
  intro job
  have keeps := Keeps.beginFetch s.segments begins u.userKey u.userValue options
  have opens := opens_beginFetch s.segments begins u options
  rcases begun : s.segments.beginFetch begins u.userKey u.userValue options with ⟨opened, t, said⟩
  rw [begun] at keeps opens
  have confined := h.confined.of_keeps keeps
  cases opens with
  | nothing =>
    obtain ⟨fetched, after⟩ := fetched?_of_done h.idle ends outcome begun
    exact ⟨_, fetched, iff_of_true nofun nofun, fun _ => after ▸ ⟨rfl, confined⟩⟩
  | unasked config integrated =>
    obtain ⟨fetched, after⟩ := fetched?_of_done h.idle ends outcome begun
    refine ⟨_, fetched, iff_of_true ?_ nofun, fun _ => after ▸ ⟨rfl, confined⟩⟩
    rintro names same name member
    cases same
    exact absurd member List.not_mem_nil
  | found config integrated names held =>
    obtain ⟨fetched, after⟩ := fetched?_of_done h.idle ends outcome begun
    refine ⟨_, fetched, iff_of_true ?_ nofun, fun _ => after ▸ ⟨rfl, confined⟩⟩
    rintro names same name member
    cases same
    exact ⟨config, integrated, h.confined.within config _ _ integrated held member⟩
  | asks config integrated =>
    obtain ⟨fetched, after⟩ := fetched?_of_ask h.idle ends outcome begun
    refine ⟨_, fetched, ?_, fun kept => after ▸ ⟨rfl, ?_⟩⟩
    · -- The question has the segments of the configuration.
      simp [Fetched.IsConfigured, Fetched.IsKept, SegmentQuery.isKeptBy_iff, integrated, queryFor,
        List.subset_def]
    · refine confined.endFetch ends _ fun current names integrated' came => ?_
      have same := integrated.symm.trans (keeps.integration.symm.trans integrated')
      cases same
      exact SegmentQuery.isKeptBy_iff.mp (kept _ rfl) names came

/-- Fetches that are done one after another return with configured segments exactly if the platform keeps to
all of its questions. -/
theorem isConfigured_iff (h : s.Ready) (jobs : List Job) :
    (∀ fetched ∈ s.fetches jobs, fetched.IsConfigured) ↔
      ∀ fetched ∈ s.fetches jobs, fetched.IsKept := by
  induction jobs generalizing s with
  | nil => exact iff_of_true (List.forall_mem_nil _) (List.forall_mem_nil _)
  | cons job jobs ih =>
    rw [fetches, List.forall_mem_append, List.forall_mem_append]
    cases job with
    | update integration =>
      have ready : (Run.final next? s (Job.update integration).labels).Ready :=
        ⟨h.idle, .update s.segments integration⟩
      rw [ih ready]
      simp [fetched?]
    | fetch u options begins ends outcome =>
      obtain ⟨fetched, known, head, ready⟩ := h.fetch u options begins ends outcome
      rw [known, Option.toList_some, List.forall_mem_singleton, List.forall_mem_singleton, head]
      exact and_congr_right fun kept => ih (ready kept)

end Ready

/-- Only segments that a question asks for come of it exactly if nothing is asked or the response has no
others, and fetches that are done one after another return with segments configured in the integration
that they began under exactly if the response to every question that was asked has no others. -/
theorem onlyConfigured_iff (q : SegmentQuery) (send : Request → Except Failure Response)
    (capacity : Nat) (timeout : Option Duration) (jobs : List Job) :
    (q.StaysWithin send ↔ q.segments = [] ∨ q.IsKeptBy (send q.request)) ∧
    ((∀ fetched ∈ (fresh capacity timeout).fetches jobs, fetched.IsConfigured) ↔
      ∀ fetched ∈ (fresh capacity timeout).fetches jobs, fetched.IsKept) := by
  constructor
  · exact SegmentQuery.staysWithin_iff send
  · exact (Ready.fresh capacity timeout).isConfigured_iff jobs

/-- An answer that qualifies the customer for a segment that is not configured. -/
def silverAnswer : String :=
  "\x7b\"data\":\x7b\"customer\":\x7b\"audiences\":\x7b\"edges\":[" ++
    "\x7b\"node\":\x7b\"name\":\"gold\",\"state\":\"qualified\"\x7d\x7d," ++
    "\x7b\"node\":\x7b\"name\":\"silver\",\"state\":\"qualified\"\x7d\x7d]\x7d\x7d\x7d\x7d"

theorem answers_silverAnswer : SegmentQuery.Answers silverAnswer ["gold", "silver"] := by
  have read : SegmentAnswer.ofText? silverAnswer
      = some ⟨some [⟨"gold", "qualified"⟩, ⟨"silver", "qualified"⟩], []⟩ := by
    decide +kernel
  exact ⟨_, _, read, rfl, rfl, by decide⟩

/-- The platform answers a question for one segment with two. -/
theorem not_onlyConfigured_of_silver :
    (¬ ∀ (q : SegmentQuery) (send : Request → Except Failure Response), q.StaysWithin send) ∧
    ¬ ∀ (capacity : Nat) (timeout : Option Duration) (jobs : List Job),
      ∀ fetched ∈ (fresh capacity timeout).fetches jobs, fetched.IsConfigured := by
  let response : Response := { status := 200, body := silverAnswer }
  have strays (q : SegmentQuery) (gold : q.segments = ["gold"]) : ¬ q.IsKeptBy (.ok response) := by
    intro kept
    have within := kept response ["gold", "silver"] rfl answers_silverAnswer
    rw [gold] at within
    exact absurd within (by decide)
  constructor
  · intro claim
    rcases (SegmentQuery.staysWithin_iff fun _ => .ok response).mp (claim SegmentQuery.forGold _)
      with none | kept
    · exact absurd none (by decide)
    · exact strays _ rfl kept
  · intro claim
    let jobs : List Job := [.update (.integrated goldConfig),
      .fetch ⟨"vuid", "u"⟩ {} .none .none (.ok response)]
    obtain ⟨fetched, member, question, outcome⟩ : ∃ fetched ∈ (fresh 1 none).fetches jobs,
        fetched.question = some (queryFor goldConfig "vuid" "u") ∧ fetched.outcome = .ok response :=
      ⟨_, List.mem_cons_self, rfl, rfl⟩
    have kept := ((Ready.fresh 1 none).isConfigured_iff jobs).mp (claim 1 none jobs) fetched member
    exact strays _ rfl (outcome ▸ kept _ question)

end System

end Segments

end Targeting.Platform
