import Targeting.Platform.Segments.System
import Targeting.Proofs.Cache
import Targeting.Proofs.Run

/-!
# Segments of another configuration

A fetch reads the configuration before it waits and saves its answer after it has waited. In between
a new configuration may have come and emptied the cache. Then the answer is saved all the same, and
stays in the cache of a configuration that it was not fetched under. So cached segments belong to
the configuration of the moment exactly in those runs in which every answer that is saved comes
while the configuration is the one that it was asked for under.

## Main definitions

* `System.Deposit`, `System.deposit?` — what an answer puts into the cache
* `System.source?` — the deposit that an entry of the cache comes from
* `System.Isolated` — cached segments belong to the configuration of the moment

## Main results

* `System.isolated_iff` — when they do
* `System.not_isolated_of_late_answer` — a run in which they do not
-/

namespace Targeting.Platform.Segments

variable {s t u : Segments} {now : Duration} {key : String} {names : List String}

/-- Whether a question was asked with the values of a configuration. -/
def fits (query : SegmentQuery) : Option Integration → Bool
  | some (.integrated config) =>
    query.apiKey = config.apiKey && query.host = config.host && query.segments = config.segments
  | _ => false

/-! ### Fetching leaves the configuration alone and brings nothing into the cache -/

/-- The segments as a fetch finds them: the cache is emptied if the fetch asks for it. -/
def opened (s : Segments) (options : FetchOptions) : Segments :=
  { s with cache := if options.resetCache then s.cache.reset else s.cache }

theorem lookup_of_ignored {options : FetchOptions} (h : options.ignoreCache = true) :
    s.lookup now key options = (none, s.opened options) := by
  simp [lookup, opened, h]

theorem lookup_of_used {options : FetchOptions} (h : options.ignoreCache = false) :
    s.lookup now key options = (((s.opened options).cache.lookup now key).1,
      { s.opened options with cache := ((s.opened options).cache.lookup now key).2 }) := by
  simp [lookup, opened, h]

/-- The configuration stays, and the cache holds nothing new. -/
structure Keeps (s t : Segments) : Prop where
  integration : t.integration = s.integration
  capacity : t.cache.capacity = s.cache.capacity
  coherent : s.cache.Coherent → t.cache.Coherent
  holds : ∀ key names, t.cache.Holds key names → s.cache.Holds key names

namespace Keeps

theorem refl (s : Segments) : Keeps s s := ⟨rfl, rfl, id, fun _ _ => id⟩

theorem trans (h : Keeps s t) (h' : Keeps t u) : Keeps s u where
  integration := h'.integration.trans h.integration
  capacity := h'.capacity.trans h.capacity
  coherent coherent := h'.coherent (h.coherent coherent)
  holds key names held := h.holds key names (h'.holds key names held)

theorem opened (s : Segments) (options : FetchOptions) : Keeps s (s.opened options) := by
  unfold Segments.opened
  cases options.resetCache with
  | true => exact ⟨rfl, rfl, fun _ => .reset _, fun _ _ held => absurd held Cache.not_holds_reset⟩
  | false => exact .refl s

theorem lookup (s : Segments) (now : Duration) (key : String) (options : FetchOptions) :
    Keeps s (s.lookup now key options).2 := by
  refine (Keeps.opened s options).trans ?_
  cases ignored : options.ignoreCache with
  | true =>
    rw [lookup_of_ignored ignored]
    exact .refl _
  | false =>
    rw [lookup_of_used ignored]
    exact ⟨rfl, Cache.lookup_capacity .., fun coherent => coherent.lookup now key,
      fun _ _ => Cache.Holds.of_lookup⟩

theorem beginAsking (s : Segments) (now : Duration) (query : SegmentQuery)
    (options : FetchOptions) : Keeps s (s.beginAsking now query options).2.1 := by
  have keeps := Keeps.lookup s now (Pending.key ⟨query, options⟩) options
  rcases looked : s.lookup now (Pending.key ⟨query, options⟩) options with ⟨_ | names, t⟩ <;>
    simpa only [Segments.beginAsking, looked] using keeps

theorem beginFetch (s : Segments) (now : Duration) (userKey userValue : String)
    (options : FetchOptions) : Keeps s (s.beginFetch now userKey userValue options).2.1 := by
  unfold Segments.beginFetch
  -- Only a fetch under an integrated configuration with segments to check comes to the cache.
  split
  · exact .refl s
  · exact .refl s
  · split
    · exact .refl s
    · exact .beginAsking s now _ options

end Keeps

theorem holds_of_lookup {options : FetchOptions}
    (found : (s.lookup now key options).1 = some names) : s.cache.Holds key names := by
  cases ignored : options.ignoreCache with
  | true =>
    rw [lookup_of_ignored ignored] at found
    exact absurd found.symm (Option.some_ne_none names)
  | false =>
    rw [lookup_of_used ignored] at found
    exact (Keeps.opened s options).holds key names (Cache.holds_of_lookup found)

/-- What is said to come from the cache was in the cache. -/
theorem holds_of_beginFetch {userKey userValue foundKey foundValue : String}
    {options : FetchOptions}
    (begun : s.beginFetch now userKey userValue options
      = (.done (some names), t, [.cached foundKey foundValue])) :
    s.cache.Holds (cacheKey foundKey foundValue) names := by
  unfold beginFetch at begun
  split at begun
  · simp at begun
  · simp at begun
  · split at begun
    · simp at begun
    · next config _ _ =>
      -- The notice names the user of the question, so the key that was looked up is the one named.
      generalize queryFor config userKey userValue = query at begun
      rcases looked : s.lookup now (Pending.key ⟨query, options⟩) options with ⟨_ | found, u⟩ <;>
        simp only [beginAsking, looked, Prod.mk.injEq, Begun.done.injEq, Option.some.injEq,
          List.cons.injEq, Notice.cached.injEq, reduceCtorEq, false_and] at begun
      obtain ⟨rfl, -, ⟨rfl, rfl⟩, -⟩ := begun
      exact holds_of_lookup (congrArg Prod.fst looked)

namespace System

variable {s t : System} {reports : List Report} {c : Label} {now : Duration} {key : String}
  {names : List String}

/-! ### Where entries of the cache come from -/

/-- What an answer puts into the cache: the key, the question, and the answer to it. -/
structure Deposit where
  key : String
  query : SegmentQuery
  names : List String

/-- What a step puts into the cache. -/
def deposit? (step : Step System Label Report) : Option Deposit :=
  match step.choice with
  | .answer n _ (some names) _ =>
    match step.before.pending.lookup n with
    | some pending =>
      if pending.options.ignoreCache || step.before.segments.cache.capacity == 0 then none
      else some ⟨pending.key, pending.query, names⟩
    | none => none
  | _ => none

/-- The last deposit under a key. -/
def source? (past : List (Step System Label Report)) (key : String) : Option Deposit :=
  (past.filterMap deposit?).reverse.find? (·.key == key)

/-- The segments that a fetch gets from the cache, with their key. -/
def served? (step : Step System Label Report) : Option (String × List String) :=
  match step.reports with
  | [.said (.cached userKey userValue), .returned _ (some names)] =>
    some (cacheKey userKey userValue, names)
  | _ => none

/-- Some segments come from a question with the values of a configuration. -/
def Fitting (past : List (Step System Label Report)) (integration : Option Integration)
    (key : String) (names : List String) : Prop :=
  ∃ d, source? past key = some d ∧ d.names = names ∧ fits d.query integration = true

/-- Cached segments belong to the configuration of the moment: what a fetch gets from the cache
comes from a question with the values of the configuration that the fetch begins under, and after
every step all that the cache holds comes from questions with the values of the configuration that
there is. -/
def Isolated (run : List (Step System Label Report)) : Prop :=
  ∀ past step rest, run = past ++ step :: rest →
    (∀ key names, served? step = some (key, names) →
      Fitting past step.before.segments.integration key names) ∧
    ∀ key names, step.after.segments.cache.Holds key names →
      Fitting (past ++ [step]) step.after.segments.integration key names

theorem source?_append_self {step : Step System Label Report} {d : Deposit}
    (h : deposit? step = some d) (past : List (Step System Label Report)) :
    source? (past ++ [step]) d.key = some d := by
  simp [source?, h]

theorem source?_append_of_apart {step : Step System Label Report}
    {past : List (Step System Label Report)} (apart : ∀ d, deposit? step = some d → key ≠ d.key) :
    source? (past ++ [step]) key = source? past key := by
  cases deposit : deposit? step with
  | none => simp [source?, deposit]
  | some d => simp [source?, deposit, beq_eq_false_iff_ne.mpr (Ne.symm (apart d deposit))]

/-! ### Steps -/

/-- What a step does to the segments: there is a new configuration, or nothing comes into the cache,
or an answer is saved. -/
inductive Turn (x : Step System Label Report) : Prop
  | renewed {integration : Integration}
      (after : x.after.segments = x.before.segments.update integration)
      (deposit : deposit? x = none) (served : served? x = none)
  | kept (after : Keeps x.before.segments x.after.segments) (deposit : deposit? x = none)
      (served : ∀ key names, served? x = some (key, names) →
        x.before.segments.cache.Holds key names)
  | saved {d : Deposit} {now : Duration} (room : x.before.segments.cache.capacity ≠ 0)
      (after : x.after.segments = { x.before.segments with
        cache := x.before.segments.cache.save now d.key d.names })
      (deposit : deposit? x = some d) (served : served? x = none)

theorem eq_cached_of_served? {n : Nat} {result : Option (List String)} {said : List Notice}
    (h : served? ⟨s, c, t, said.map .said ++ [.returned n result]⟩ = some (key, names)) :
    ∃ userKey userValue, said = [.cached userKey userValue] ∧ result = some names ∧
      key = cacheKey userKey userValue := by
  unfold served? at h
  split at h
  · next userKey userValue m found same =>
    obtain ⟨rfl, rfl⟩ := Prod.mk.inj (Option.some.inj h)
    -- There are two reports in all and the last one is the return, so one thing was said.
    rcases said with _ | ⟨notice, _ | ⟨_, _⟩⟩ <;> simp at same
    obtain ⟨rfl, -, rfl⟩ := same
    exact ⟨userKey, userValue, rfl, rfl, rfl⟩
  · exact absurd h (by simp)

theorem served?_of_asked {n : Nat} {result : Option (List String)}
    (said : List SegmentQuery.Notice) :
    served? ⟨s, c, t, said.map (fun notice => .said (.asked notice)) ++ [.returned n result]⟩
      = none := by
  rcases said with _ | ⟨_, _ | ⟨_, _⟩⟩ <;> rfl

theorem served?_of_asks {n : Nat} {query : SegmentQuery} (said : List Notice) :
    served? ⟨s, c, t, said.map .said ++ [.asks n query]⟩ = none := by
  rcases said with _ | ⟨notice, _ | ⟨_, _⟩⟩
  · rfl
  · cases notice <;> rfl
  · cases notice <;> rfl

/-- An answer is saved, or it is not to be saved. -/
theorem turn_of_answer {n : Nat} {now : Duration} {result : Option (List String)}
    {said : List SegmentQuery.Notice}
    (h : s.next? (.answer n now result said) = some (t, reports)) :
    Turn ⟨s, .answer n now result said, t, reports⟩ := by
  obtain ⟨pending, known, h⟩ := Option.bind_eq_some_iff.mp h
  obtain ⟨rfl, rfl⟩ := Prod.mk.inj (Option.some.inj h)
  -- An answer is never something from the cache, whatever the question said on its way.
  have silent {key : String} {names : List String} {t : System} (served : served? ⟨s,
      .answer n now result said, t, said.map (fun notice => .said (.asked notice)) ++
        [.returned n result]⟩ = some (key, names)) : s.segments.cache.Holds key names := by
    rw [served?_of_asked] at served
    exact absurd served (by simp)
  cases result with
  | none => exact .kept (.refl _) rfl fun _ _ => silent
  | some names =>
    cases ignored : pending.options.ignoreCache with
    | true =>
      refine .kept ?_ (by simp [deposit?, known, ignored]) fun _ _ => silent
      simpa [endFetch, ignored] using Keeps.refl s.segments
    | false =>
      by_cases room : s.segments.cache.capacity = 0
      · refine .kept ?_ (by simp [deposit?, known, room]) fun _ _ => silent
        simpa [endFetch, ignored, Cache.save, room] using Keeps.refl s.segments
      · have after : s.segments.endFetch now pending (some names)
            = { s.segments with cache := s.segments.cache.save now pending.key names } := by
          simp [endFetch, ignored]
        exact .saved (d := ⟨pending.key, pending.query, names⟩) room after
          (by simp [deposit?, known, ignored, room]) (served?_of_asked said)

/-- Every step is one of these. -/
theorem turn_of_next? (h : s.next? c = some (t, reports)) : Turn ⟨s, c, t, reports⟩ := by
  cases c with
  | update integration =>
    obtain ⟨rfl, rfl⟩ := Prod.mk.inj (Option.some.inj h)
    exact .renewed rfl rfl rfl
  | fetch n now userKey userValue options =>
    have keeps := Keeps.beginFetch s.segments now userKey userValue options
    rcases begun : s.segments.beginFetch now userKey userValue options
      with ⟨result | pending, segments, said⟩ <;> simp only [next?, begun] at h <;>
        rw [begun] at keeps <;> obtain ⟨rfl, rfl⟩ := Prod.mk.inj (Option.some.inj h)
    · refine .kept keeps rfl fun key names served => ?_
      obtain ⟨foundKey, foundValue, rfl, rfl, rfl⟩ := eq_cached_of_served? served
      exact holds_of_beginFetch begun
    · refine .kept keeps rfl fun key names served => ?_
      rw [served?_of_asks] at served
      exact absurd served (by simp)
  | answer n now result said => exact turn_of_answer h

namespace Turn

variable {x : Step System Label Report}

theorem coherent (turn : Turn x) (h : x.before.segments.cache.Coherent) :
    x.after.segments.cache.Coherent := by
  cases turn with
  | renewed after =>
    rw [after]
    exact .reset _
  | kept after => exact after.coherent h
  | saved room after =>
    rw [after]
    exact h.save ..

/-- What is deposited is held, under the configuration that there was before. -/
theorem holds_deposit {d : Deposit} (turn : Turn x) (h : x.before.segments.cache.Coherent)
    (deposit : deposit? x = some d) :
    x.after.segments.cache.Holds d.key d.names ∧
      x.after.segments.integration = x.before.segments.integration := by
  cases turn with
  | renewed _ nothing | kept _ nothing => exact absurd (nothing.symm.trans deposit) (by simp)
  | saved room after deposited =>
    obtain rfl := Option.some.inj (deposited.symm.trans deposit)
    rw [after]
    exact ⟨h.holds_save room .., rfl⟩

/-- What is held after a step was put there by this step, or it was held before under the same
configuration and nothing was put in its place. -/
theorem origin (turn : Turn x) (h : x.before.segments.cache.Coherent)
    (held : x.after.segments.cache.Holds key names) :
    (∃ d, deposit? x = some d ∧ d.key = key ∧ d.names = names) ∨
      x.before.segments.cache.Holds key names ∧
        x.after.segments.integration = x.before.segments.integration ∧
        ∀ d, deposit? x = some d → key ≠ d.key := by
  cases turn with
  | renewed after =>
    -- A new configuration leaves nothing in the cache.
    rw [after] at held
    exact absurd held Cache.not_holds_reset
  | kept after nothing =>
    refine .inr ⟨after.holds key names held, after.integration, fun d deposit => ?_⟩
    exact absurd (nothing.symm.trans deposit) (by simp)
  | saved room after deposited =>
    rw [after] at held ⊢
    rcases held.of_save h room with ⟨rfl, rfl⟩ | ⟨ne, held⟩
    · exact .inl ⟨_, deposited, rfl, rfl⟩
    · refine .inr ⟨held, rfl, fun d deposit => ?_⟩
      rwa [← Option.some.inj (deposited.symm.trans deposit)]

/-- If what is deposited fits, all that is held goes on to fit. -/
theorem fitting {past : List (Step System Label Report)} (turn : Turn x)
    (h : x.before.segments.cache.Coherent)
    (before : ∀ key names, x.before.segments.cache.Holds key names →
      Fitting past x.before.segments.integration key names)
    (fit : ∀ d, deposit? x = some d → fits d.query x.before.segments.integration = true) :
    ∀ key names, x.after.segments.cache.Holds key names →
      Fitting (past ++ [x]) x.after.segments.integration key names := by
  intro key names held
  rcases turn.origin h held with ⟨d, deposit, rfl, rfl⟩ | ⟨held, same, apart⟩
  · have same := (turn.holds_deposit h deposit).2
    exact ⟨d, source?_append_self deposit past, rfl, same ▸ fit d deposit⟩
  · rw [Fitting, source?_append_of_apart apart, same]
    exact before key names held

/-- What a fetch gets from the cache was in the cache. -/
theorem holds_of_served? (turn : Turn x) (served : served? x = some (key, names)) :
    x.before.segments.cache.Holds key names := by
  cases turn with
  | kept _ _ found => exact found key names served
  | renewed _ _ nothing | saved _ _ _ nothing => exact absurd (nothing.symm.trans served) (by simp)

end Turn

/-! ### Runs -/

/-- The run up to a last step. -/
theorem isolated_append_singleton {past : List (Step System Label Report)}
    {x : Step System Label Report} (h : Isolated past)
    (served : ∀ key names, served? x = some (key, names) →
      Fitting past x.before.segments.integration key names)
    (held : ∀ key names, x.after.segments.cache.Holds key names →
      Fitting (past ++ [x]) x.after.segments.integration key names) : Isolated (past ++ [x]) := by
  intro earlier step rest split
  -- The step in question is the last one, or it lies in the past already.
  rcases List.eq_nil_or_concat rest with rfl | ⟨rest, last, rfl⟩
  · obtain ⟨rfl, single⟩ := List.append_inj' split rfl
    obtain rfl := List.singleton_inj.mp single
    exact ⟨served, held⟩
  · rw [List.concat_eq_append, ← List.cons_append, ← List.append_assoc] at split
    obtain ⟨rfl, -⟩ := List.append_inj' split rfl
    exact h earlier step rest rfl

/-- So far cached segments have belonged to the configuration of the moment, and now they do. -/
structure Secluded (past : List (Step System Label Report)) (s : System) : Prop where
  coherent : s.segments.cache.Coherent
  isolated : Isolated past
  fitting : ∀ key names, s.segments.cache.Holds key names →
    Fitting past s.segments.integration key names

theorem Secluded.initial (coherent : s.segments.cache.Coherent)
    (empty : ∀ key names, ¬ s.segments.cache.Holds key names) : Secluded [] s where
  coherent := coherent
  isolated past step rest split := absurd split (by simp)
  fitting key names held := absurd held (empty key names)

theorem Secluded.next {past : List (Step System Label Report)} {x : Step System Label Report}
    (h : Secluded past x.before) (turn : Turn x)
    (fit : ∀ d, deposit? x = some d → fits d.query x.before.segments.integration = true) :
    Secluded (past ++ [x]) x.after := by
  have fitting := turn.fitting h.coherent h.fitting fit
  refine ⟨turn.coherent h.coherent, isolated_append_singleton h.isolated ?_ fitting, fitting⟩
  exact fun key names served => h.fitting key names (turn.holds_of_served? served)

/-- The system before anything has happened. -/
def fresh (capacity : Nat) (timeout : Option Duration) : System :=
  { segments := { cache := { capacity, timeout } } }

theorem coherent_fresh (capacity : Nat) (timeout : Option Duration) :
    (fresh capacity timeout).segments.cache.Coherent :=
  .of_empty rfl rfl

theorem not_holds_fresh (capacity : Nat) (timeout : Option Duration) (key : String)
    (names : List String) : ¬ (fresh capacity timeout).segments.cache.Holds key names :=
  Cache.not_holds_reset (c := (fresh capacity timeout).segments.cache)

theorem secluded_run {capacity : Nat} {timeout : Option Duration} {labels : List Label}
    (fit : ∀ step ∈ Run.steps next? (fresh capacity timeout) labels, ∀ d, deposit? step = some d →
      fits d.query step.before.segments.integration = true) :
    Secluded (Run.steps next? (fresh capacity timeout) labels)
      (Run.final next? (fresh capacity timeout) labels) := by
  revert fit
  refine Run.induction (motive := fun past s => (∀ step ∈ past, ∀ d, deposit? step = some d →
    fits d.query step.before.segments.integration = true) → Secluded past s) ?_ ?_ labels
  · exact fun _ => .initial (coherent_fresh ..) (not_holds_fresh capacity timeout)
  · intro past s c t reports secluded taken fit
    obtain ⟨fit, last⟩ := List.forall_mem_append.mp fit
    exact (secluded fit).next (turn_of_next? taken) (List.forall_mem_singleton.mp last)

/-- Cached segments belong to the configuration of the moment throughout a run if and only if every
answer that is saved in it comes while the configuration is the one that it was asked for under. -/
theorem isolated_iff (capacity : Nat) (timeout : Option Duration) (labels : List Label) :
    Isolated (Run.steps next? (fresh capacity timeout) labels) ↔
      ∀ step ∈ Run.steps next? (fresh capacity timeout) labels, ∀ d, deposit? step = some d →
        fits d.query step.before.segments.integration = true := by
  constructor
  · -- Right after it was saved, an answer is held, and it is its own source.
    intro isolated step hs d deposit
    obtain ⟨past, rest, split⟩ := List.append_of_mem hs
    obtain ⟨coherent, taken⟩ := Run.until_induction
      (motive := fun s : System => s.segments.cache.Coherent) split (coherent_fresh ..)
      fun x _ coherent taken => (turn_of_next? taken).coherent coherent
    obtain ⟨held, same⟩ := (turn_of_next? taken).holds_deposit coherent deposit
    obtain ⟨d', source, -, fit⟩ := (isolated past step rest split).2 d.key d.names held
    obtain rfl := Option.some.inj ((source?_append_self deposit past).symm.trans source)
    rwa [same] at fit
  · intro fit
    exact (secluded_run fit).isolated

/-- Choices by which a new configuration comes while a fetch waits for its answer. -/
def lateAnswer : List Label :=
  [.update (.integrated ⟨"old", "https://host", "", ["gold"]⟩),
    .fetch 0 .none "vuid" "u" {},
    .update (.integrated ⟨"new", "https://host", "", ["gold"]⟩),
    .answer 0 .none (some ["gold"]) []]

/-- The next fetch gets from the cache what was asked for with the old key. -/
theorem not_isolated_of_late_answer :
    ¬ ∀ (capacity : Nat) (timeout : Option Duration) (labels : List Label),
      Isolated (Run.steps next? (fresh capacity timeout) labels) := by
  intro claim
  -- The last fetch begins under the new key, and what it gets was asked for under the old one.
  have isolated := claim 1 none (lateAnswer ++ [.fetch 1 .none "vuid" "u" {}])
  obtain ⟨step, run, served, current⟩ : ∃ step,
      Run.steps next? (fresh 1 none) (lateAnswer ++ [.fetch 1 .none "vuid" "u" {}])
        = Run.steps next? (fresh 1 none) lateAnswer ++ step :: [] ∧
      served? step = some (cacheKey "vuid" "u", ["gold"]) ∧
      step.before.segments.integration
        = some (.integrated ⟨"new", "https://host", "", ["gold"]⟩) :=
    ⟨_, rfl, rfl, rfl⟩
  obtain ⟨d, source, -, fit⟩ := (isolated _ step [] run).1 _ _ served
  have asked : (source? (Run.steps next? (fresh 1 none) lateAnswer) (cacheKey "vuid" "u")).map
      (·.query.apiKey) = some "old" := by decide
  rw [source] at asked
  simp [current, fits, Option.some.inj asked] at fit

end System

end Targeting.Platform.Segments
