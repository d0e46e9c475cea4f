import Targeting.Proofs.Outbox.AtRest
import Targeting.Proofs.Outbox.Course

/-!
# Trying again

A delivery shares the system with other deliveries, with calls and with timers. None of them touches
it: a step that is no attempt on its batch leaves it where it stands, and an attempt brings it on as its
own course says. So whatever comes in between, the attempts on a batch, the delays between them and its
last word depend on nothing but what was handed over and what the attempts come to.

They are as the rule has it unless a delay cannot be taken before an attempt that is asked for. Then the
delivery crashes instead.

## Main definitions

* `System.attemptsOn`, `System.callsOn`, `System.pausesOn` — what a run does about a batch
* `System.Guides` — the attempts on a batch in a run come out as in a course
* `System.Fares` — what has become of a batch in a run
* `System.Proceeds`, `System.KeepsToRule` — how far a run has come with a batch, and whether this is as the
  rule has it

## Main results

* `System.Fares.attempted`, `System.Fares.passed` — what a step makes of a batch
* `System.Fares.exists_end` — attempts alone bring a delivery to its end
* `System.proceeds_of_run`, `System.exists_end_of_run` — how a batch fares in every run
* `System.keepsToRule_iff` — when the attempts, the delays and the last word are as the rule has it
-/

namespace Targeting.Platform

namespace Outbox.System

open Delivery (Course)

variable {settings : OutboxSettings} {course : Course} {s t : System} {c : Label}
  {reports : List Report} {past : List (Step System Label Report)} {batch : Nat}

/-- The batch on which a choice is an attempt. -/
def Label.tried? : Label → Option Nat
  | .attempt batch _ _ => some batch
  | _ => none

/-- The attempts on a batch in a run. -/
def attemptsOn (batch : Nat) (run : List (Step System Label Report)) :
    List (Step System Label Report) :=
  run.filter fun step => step.choice.tried? = some batch

/-- The configuration and the events with which a step makes an attempt on a batch. -/
def callOf? (batch : Nat) (step : Step System Label Report) : Option (Config × List Event) :=
  match step.before.progress? batch with
  | some (.active delivery) => some (delivery.config, delivery.batch)
  | _ => none

/-- The configurations and the events with which the attempts on a batch are made in a run. -/
def callsOn (batch : Nat) (run : List (Step System Label Report)) : List (Config × List Event) :=
  (attemptsOn batch run).filterMap (callOf? batch)

/-- How long a batch waits by a report. -/
def Report.pause? (batch : Nat) : Report → Option Duration
  | .waits other delay => if other = batch then some delay else none
  | _ => none

/-- The delays for which a batch waits in a run. -/
def pausesOn (batch : Nat) (run : List (Step System Label Report)) : List Duration :=
  run.flatMap fun step => step.reports.filterMap (Report.pause? batch)

/-- The attempt on a batch that comes after some other ones in a course. -/
def attemptOf (course : Course) (batch n : Nat) : Label :=
  .attempt batch (course.draws n) (course.outcome n)

/-- The attempts on a batch in a run come out as in a course. -/
def Guides (course : Course) (batch : Nat) (run : List (Step System Label Report)) : Prop :=
  ∀ (n : Nat) (step : Step System Label Report), (attemptsOn batch run)[n]? = some step →
    step.choice = attemptOf course batch n

/-! ### Steps that are no attempt on the batch -/

theorem pauses_of_effects (effects : List Effect) :
    (effects.map Report.effect).filterMap (Report.pause? batch) = [] :=
  List.filterMap_eq_nil_iff.mpr (List.forall_mem_map.mpr fun _ _ => rfl)

theorem pauses_of_notices (said : List Notice) :
    (said.map fun notice => Report.effect (.said notice)).filterMap (Report.pause? batch) = [] :=
  List.filterMap_eq_nil_iff.mpr (List.forall_mem_map.mpr fun _ _ => rfl)

/-- A batch waits only after an attempt on it. -/
theorem Moves.pauses_of_other (step : s.Moves c t reports) (other : c.tried? ≠ some batch) :
    reports.filterMap (Report.pause? batch) = [] := by
  cases step with
  | @delayed changed =>
    have apart : changed ≠ batch := fun same => other (congrArg some same)
    rw [List.filterMap_append, pauses_of_notices]
    simp [Report.pause?, apart]
  | finished =>
    rw [List.filterMap_append, pauses_of_notices]
    rfl
  | start | stopped =>
    rw [List.filterMap_append, pauses_of_effects]
    rfl
  | flushed | ended => rfl
  | _ => exact pauses_of_effects _

/-- A choice that is no attempt begins the deliveries that it hands over and leaves all others alone. -/
theorem Moves.deliveries_eq (step : s.Moves c t reports) (none : c.tried? = none) :
    t.deliveries = s.deliveries ++ (handovers (effectsOf reports)).map (launch s.settings) := by
  cases step with
  | start | stopped =>
    rw [applied_deliveries, effectsOf_append, effectsOf_map, handovers_append]
    exact congrArg _ (congrArg _ (List.append_nil _).symm)
  | flush | stop => rw [withCaller_deliveries, applied_deliveries, effectsOf_map]
  | look =>
    obtain ⟨said, words⟩ : ∃ said : List Notice, afterwards _ = said.map .said :=
      exists_afterwards _
    rw [effectsOf_map, words, (nothing_of_words _).2.1]
    exact (List.append_nil _).symm
  | flushed | ended => exact (List.append_nil _).symm
  | delayed | finished => exact absurd none (Option.some_ne_none _)
  | _ => rw [applied_deliveries, effectsOf_map]

/-- An attempt is made on a delivery under way. It changes nothing but the progress of this one, and it
hands nothing over. -/
theorem Moves.attempted (step : s.Moves c t reports) (tried : c.tried? = some batch) :
    ∃ delivery progress, s.progress? batch = some (.active delivery) ∧
      t = { s with deliveries := replace s.deliveries batch progress } ∧
      handovers (effectsOf reports) = [] := by
  cases step with
  | delayed known | finished known =>
    obtain rfl := Option.some.inj tried
    refine ⟨_, _, known, rfl, ?_⟩
    rw [effectsOf_append, effectsOf_notices, handovers_append, (nothing_of_words _).2.1]
    rfl
  | _ => exact absurd tried.symm (Option.some_ne_none batch)

/-- A batch that is known is not handed over again. -/
theorem HeldOnce.progress?_of_known (h : s.HeldOnce) (step : s.Moves c t reports)
    (other : c.tried? ≠ some batch) {progress : Progress} (known : s.progress? batch = some progress) :
    t.progress? batch = some progress ∧
      ∀ entry ∈ handovers (effectsOf reports), entry.1 ≠ batch := by
  cases tried : c.tried? with
  | some changed =>
    have apart : batch ≠ changed := fun same => other (same ▸ tried)
    obtain ⟨_, _, -, rfl, nothing⟩ := step.attempted tried
    rw [nothing]
    exact ⟨(lookup_replace_of_ne apart).trans known, List.forall_mem_nil _⟩
  | none =>
    have deliveries := step.deliveries_eq tried
    refine ⟨by rw [progress?, deliveries, List.lookup_append, ← progress?, known, Option.some_or],
      fun entry he same => ?_⟩
    -- Its number would stand twice among the deliveries.
    have distinct := (h.next step).tracked.nodup_numbers
    rw [deliveries, List.map_append] at distinct
    exact (List.nodup_append.mp distinct).2.2 batch (List.mem_map_of_mem (mem_of_lookup known))
      entry.1 (List.mem_map_of_mem (List.mem_map_of_mem he)) same.symm

/-- A batch that is not known stays so unless it is handed over. -/
theorem HeldOnce.progress?_of_unknown (h : s.HeldOnce) (step : s.Moves c t reports)
    (unknown : s.progress? batch = none) :
    t.progress? batch = none ∧ (∀ entry ∈ handovers (effectsOf reports), entry.1 ≠ batch) ∨
      ∃ config events,
        t.progress? batch = some (.active (.ofRule s.settings.retryRule config events)) ∧
        ∀ entry ∈ handovers (effectsOf reports), entry.1 = batch → entry.2 = (config, events) := by
  cases tried : c.tried? with
  | some changed =>
    obtain ⟨_, _, known, rfl, nothing⟩ := step.attempted tried
    have apart : batch ≠ changed := by
      rintro rfl
      rw [known] at unknown
      exact Option.some_ne_none _ unknown
    rw [nothing]
    exact .inl ⟨(lookup_replace_of_ne apart).trans unknown, List.forall_mem_nil _⟩
  | none =>
    have deliveries := step.deliveries_eq tried
    have found : t.progress? batch
        = ((handovers (effectsOf reports)).map (launch s.settings)).lookup batch := by
      rw [progress?, deliveries, List.lookup_append, ← progress?, unknown, Option.none_or]
    cases begun : ((handovers (effectsOf reports)).map (launch s.settings)).lookup batch with
    | none =>
      refine .inl ⟨found.trans begun, fun entry he => ?_⟩
      have absent := List.lookup_eq_none_iff.mp begun _ (List.mem_map_of_mem he)
      exact (bne_iff_ne.mp absent).symm
    | some progress =>
      obtain ⟨⟨number, config, events⟩, handed, same⟩ := List.mem_map.mp (mem_of_lookup begun)
      obtain ⟨rfl, rfl⟩ := Prod.mk.inj same
      refine .inr ⟨config, events, found.trans begun, fun entry he number => ?_⟩
      -- No two batches have one number.
      have distinct := (h.next step).tracked.nodup_numbers
      rw [deliveries, List.map_append, List.map_map] at distinct
      have distinct : ((handovers (effectsOf reports)).map Prod.fst).Nodup :=
        (List.nodup_append.mp distinct).2.1
      exact congrArg Prod.snd (List.inj_on_of_nodup_map distinct he handed number)

/-! ### Runs -/

/-- What has become of a batch in a run whose attempts on it come out as in a course. -/
inductive Fares (settings : OutboxSettings) (course : Course) (batch : Nat)
    (past : List (Step System Label Report)) (s : System) : Prop
  /-- It is not handed over yet. -/
  | ahead (unknown : s.progress? batch = none)
      (unhanded : ∀ entry ∈ handovers (effectsIn past), entry.1 ≠ batch)
      (untried : attemptsOn batch past = []) (unpaused : pausesOn batch past = [])
      (untold : lastWords batch past = [])
  /-- It was handed over, and stands where its attempts have brought it. -/
  | begun (config : Config) (events : List Event) {progress : Progress}
      (known : s.progress? batch = some progress)
      (handed : ∀ entry ∈ handovers (effectsIn past), entry.1 = batch → entry.2 = (config, events))
      (calls : callsOn batch past = List.replicate (attemptsOn batch past).length (config, events))
      (stands : course.Stands settings.retryRule config events (attemptsOn batch past).length
        progress (pausesOn batch past) (lastWords batch past))

section Append

variable (past) (x : Step System Label Report)

theorem attemptsOn_append_of_eq (tried : x.choice.tried? = some batch) :
    attemptsOn batch (past ++ [x]) = attemptsOn batch past ++ [x] := by
  simp [attemptsOn, tried]

theorem attemptsOn_append_of_ne (other : x.choice.tried? ≠ some batch) :
    attemptsOn batch (past ++ [x]) = attemptsOn batch past := by
  simp [attemptsOn, other]

theorem pausesOn_append : pausesOn batch (past ++ [x])
    = pausesOn batch past ++ x.reports.filterMap (Report.pause? batch) := by
  simp [pausesOn]

end Append

theorem Guides.of_append {x : Step System Label Report} (h : Guides course batch (past ++ [x])) :
    Guides course batch past := by
  intro n step found
  refine h n step ?_
  rw [attemptsOn, List.filter_append, ← attemptsOn]
  exact List.getElem?_append_left (List.getElem?_eq_some_iff.mp found).1 ▸ found

/-- A choice that is no attempt on a batch says nothing final about it, unless somebody looks at its
delivery that has crashed. -/
theorem Moves.lastWordsIn_of_other (step : s.Moves c t reports) (other : c.tried? ≠ some batch) :
    lastWordsIn batch ⟨s, c, t, reports⟩ = [] ∨
      ∃ ending, s.progress? batch = some (.ended ending) ∧
        (ending ≠ .crashed → lastWordsIn batch ⟨s, c, t, reports⟩ = []) := by
  by_cases about : s.subject? c = some batch
  · have spoken : lastWordsIn batch ⟨s, c, t, reports⟩ = finalNotices reports := if_pos about
    rw [spoken]
    -- Nobody speaks of a delivery but the delivery itself and who looks at it.
    cases step with
    | @look n caller first rest progress found waiting known gone =>
      obtain rfl : first = batch := by simpa [subject?, found, waiting] using about
      cases progress with
      | active => exact absurd gone Bool.false_ne_true
      | ended ending =>
        refine .inr ⟨ending, known, fun sound => ?_⟩
        cases ending with
        | crashed => exact absurd rfl sound
        | sent | unsendable | exhausted => rfl
    | delayed | finished => exact absurd about other
    | flushed found waiting | ended found waiting => simp [subject?, found, waiting] at about
    | _ => exact absurd about.symm (Option.some_ne_none batch)
  · exact .inl (if_neg about)

namespace Fares

theorem initial (settings : OutboxSettings) (course : Course) (batch : Nat) :
    Fares settings course batch [] { settings } :=
  .ahead rfl (List.forall_mem_nil _) rfl rfl rfl

/-- An attempt on the batch. -/
theorem attempted (h : Fares settings course batch past s) (step : s.Moves c t reports)
    (tried : c.tried? = some batch) (guides : Guides course batch (past ++ [⟨s, c, t, reports⟩])) :
    Fares settings course batch (past ++ [⟨s, c, t, reports⟩]) t := by
  have attempts : attemptsOn batch (past ++ [⟨s, c, t, reports⟩])
      = attemptsOn batch past ++ [⟨s, c, t, reports⟩] :=
    attemptsOn_append_of_eq past _ tried
  obtain ⟨d, -, active, -, nothing⟩ := step.attempted tried
  have choice : c = attemptOf course batch (attemptsOn batch past).length :=
    guides _ ⟨s, c, t, reports⟩ (by rw [attempts, List.getElem?_concat_length])
  cases h with
  | ahead unknown =>
    rw [active] at unknown
    exact absurd unknown (Option.some_ne_none _)
  | @begun config events progress known handed calls stands =>
    obtain rfl := Option.some.inj (known.symm.trans active)
    obtain ⟨-, same, carried, unspoken⟩ := stands.of_active
    have arrives := stands.arrives
    have call : callOf? batch ⟨s, c, t, reports⟩ = some (config, events) := by
      rw [callOf?, active, ← same, ← carried]
    have spoken : lastWordsIn batch ⟨s, c, t, reports⟩ = finalNotices reports :=
      if_pos (choice ▸ rfl)
    -- Whatever the attempt leads to is one more entry in each of the lists about the batch.
    have onward {progress : Progress} (after : t.progress? batch = some progress)
        (stands : course.Stands settings.retryRule config events ((attemptsOn batch past).length + 1)
          progress (pausesOn batch past ++ reports.filterMap (Report.pause? batch))
          (finalNotices reports)) :
        Fares settings course batch (past ++ [⟨s, c, t, reports⟩]) t := by
      refine .begun config events after ?_ ?_ ?_
      · rwa [effectsIn_append_singleton, handovers_append, nothing, List.append_nil]
      · rw [callsOn, attempts, List.filterMap_append, ← callsOn, calls, List.length_append,
          List.length_singleton, List.replicate_succ']
        simp [call]
      · rwa [attempts, List.length_append, List.length_singleton, pausesOn_append, lastWords_append,
          unspoken, spoken, List.nil_append]
    subst choice
    cases step with
    | @delayed _ _ delay _ _ _ _ here received =>
      obtain rfl := Progress.active.inj (Option.some.inj (here.symm.trans active))
      have waits : [Report.waits batch delay].filterMap (Report.pause? batch) = [delay] := by
        simp [Report.pause?]
      refine onward (progress?_replace known) ?_
      rw [finalNotices_notices _ _ rfl, List.filterMap_append, pauses_of_notices, waits]
      rwa [received] at arrives
    | @finished _ _ _ _ _ ending here received =>
      obtain rfl := Progress.active.inj (Option.some.inj (here.symm.trans active))
      have ends : [Report.ended batch ending].filterMap (Report.pause? batch) = [] := rfl
      refine onward (progress?_replace known) ?_
      rw [finalNotices_notices _ _ rfl, List.filterMap_append, pauses_of_notices, ends,
        List.append_nil, List.append_nil]
      rwa [received] at arrives

/-- Any other choice. -/
theorem passed (h : Fares settings course batch past s) (held : s.HeldOnce)
    (settled : s.settings = settings) (step : s.Moves c t reports) (other : c.tried? ≠ some batch) :
    Fares settings course batch (past ++ [⟨s, c, t, reports⟩]) t := by
  have attempts : attemptsOn batch (past ++ [⟨s, c, t, reports⟩]) = attemptsOn batch past :=
    attemptsOn_append_of_ne past _ other
  have pauses : pausesOn batch (past ++ [⟨s, c, t, reports⟩]) = pausesOn batch past := by
    rw [pausesOn_append, step.pauses_of_other other, List.append_nil]
  cases h with
  | ahead unknown unhanded untried unpaused untold =>
    have silent : lastWords batch (past ++ [⟨s, c, t, reports⟩]) = [] := by
      rw [lastWords_append, untold]
      rcases step.lastWordsIn_of_other other with silent | ⟨ending, known, -⟩
      · exact silent
      · rw [unknown] at known
        exact absurd known.symm (Option.some_ne_none _)
    rcases held.progress?_of_unknown step unknown with ⟨still, none⟩ | ⟨config, events, known, sole⟩
    · refine .ahead still ?_ (attempts.trans untried) (pauses.trans unpaused) silent
      rw [effectsIn_append_singleton, handovers_append]
      exact List.forall_mem_append.mpr ⟨unhanded, none⟩
    · refine .begun config events known ?_ ?_ ?_
      · rw [effectsIn_append_singleton, handovers_append]
        exact List.forall_mem_append.mpr ⟨fun entry he same => absurd same (unhanded entry he), sole⟩
      · rw [callsOn, attempts, untried]
        rfl
      · rw [attempts, untried, pauses, unpaused, silent, ← settled]
        exact .initial
  | @begun config events progress known handed calls stands =>
    obtain ⟨still, none⟩ := held.progress?_of_known step other known
    refine .begun config events still ?_ ?_ ?_
    · rw [effectsIn_append_singleton, handovers_append]
      exact List.forall_mem_append.mpr ⟨handed, fun entry he same => absurd same (none entry he)⟩
    · rw [callsOn, attempts]
      exact calls
    · rw [attempts, pauses, lastWords_append]
      rcases step.lastWordsIn_of_other other with silent | ⟨ending, ended, silent⟩
      · rw [silent, List.append_nil]
        exact stands
      · obtain rfl := Option.some.inj (known.symm.trans ended)
        exact stands.look silent

end Fares

theorem fares_of_run (settings : OutboxSettings) (labels : List Label)
    (guides : Guides course batch (Run.steps next? { settings } labels)) :
    Fares settings course batch (Run.steps next? { settings } labels)
      (Run.final next? { settings } labels) := by
  -- Beside it goes along that numbers are given once and that the rule stays what it was.
  refine (Run.induction (motive := fun past s => s.HeldOnce ∧ s.settings = settings ∧
    (Guides course batch past → Fares settings course batch past s))
    ⟨.initial settings, rfl, fun _ => .initial settings course batch⟩ ?_ labels).2.2 guides
  rintro past s c t reports ⟨held, settled, fares⟩ step
  have moves := moves_of_next? step
  refine ⟨held.next moves, moves.settings_eq.trans settled, fun guides => ?_⟩
  by_cases tried : c.tried? = some batch
  · exact (fares guides.of_append).attempted moves tried guides
  · exact (fares guides.of_append).passed held settled moves tried

/-- An attempt can be made exactly on a delivery under way. -/
theorem isSome_attempt {progress : Progress} (known : s.progress? batch = some progress)
    (draw : Duration) (outcome : Delivery.Outcome) :
    (s.next? (.attempt batch draw outcome)).isSome = !progress.isEnded := by
  rw [next?, attempted?, known]
  cases progress with
  | ended => rfl
  | active delivery =>
    rcases received : delivery.receive draw outcome with ⟨said, sequel⟩
    cases sequel <;> simp [received, Progress.isEnded]

/-- The next attempt of a course may follow a run. -/
theorem Guides.append {x : Step System Label Report} (h : Guides course batch past)
    (choice : x.choice = attemptOf course batch (attemptsOn batch past).length) :
    Guides course batch (past ++ [x]) := by
  intro n step found
  rw [attemptsOn_append_of_eq past x (choice ▸ rfl)] at found
  -- It is one of those before, or the new one, which comes last.
  rcases Nat.lt_or_ge n (attemptsOn batch past).length with earlier | later
  · rw [List.getElem?_append_left earlier] at found
    exact h n step found
  · rw [List.getElem?_append_right later, List.getElem?_singleton] at found
    split at found
    · next last =>
      obtain rfl := Option.some.inj found
      obtain rfl : n = (attemptsOn batch past).length :=
        Nat.le_antisymm (Nat.sub_eq_zero_iff_le.mp last) later
      exact choice
    · exact absurd found.symm (Option.some_ne_none step)

/-- A delivery under way has had fewer attempts than are allowed. -/
theorem Fares.lt_attempts (h : Fares settings course batch past s) {d : Delivery}
    (known : s.progress? batch = some (.active d)) :
    (attemptsOn batch past).length < settings.retryRule.attempts := by
  cases h with
  | ahead unknown =>
    rw [known] at unknown
    exact absurd unknown (Option.some_ne_none _)
  | begun config events here handed calls stands =>
    obtain rfl := Option.some.inj (here.symm.trans known)
    exact stands.of_active.1

/-- Nothing but attempts has to follow for a delivery to end. -/
theorem Fares.exists_end (h : Fares settings course batch past s) (guides : Guides course batch past)
    {progress : Progress} (known : s.progress? batch = some progress) :
    ∃ more, (∀ c ∈ more, c.tried? = some batch) ∧
      Guides course batch (past ++ Run.steps next? s more) ∧
      (Run.final next? s more).isFinished batch = true := by
  -- The induction is on the attempts that are left.
  induction left : settings.retryRule.attempts - (attemptsOn batch past).length
    using Nat.strong_induction_on generalizing past s progress with
  | _ rest ih =>
  cases progress with
  | ended ending =>
    exact ⟨[], List.forall_mem_nil _, (List.append_nil past).symm ▸ guides,
      isFinished_of_progress? known⟩
  | active d =>
    have possible : (s.next? (attemptOf course batch (attemptsOn batch past).length)).isSome = true :=
      isSome_attempt known _ _
    generalize choice : attemptOf course batch (attemptsOn batch past).length = c at possible
    have tried : c.tried? = some batch := choice ▸ rfl
    obtain ⟨⟨t, reports⟩, step⟩ := Option.isSome_iff_exists.mp possible
    have moves := moves_of_next? step
    have onward : Guides course batch (past ++ [⟨s, c, t, reports⟩]) := guides.append choice.symm
    obtain ⟨_, progress, -, same, -⟩ := moves.attempted tried
    have next : t.progress? batch = some progress := same ▸ progress?_replace known
    have fewer : settings.retryRule.attempts
        - (attemptsOn batch (past ++ [⟨s, c, t, reports⟩])).length < rest := by
      rw [attemptsOn_append_of_eq past _ tried, List.length_append, List.length_singleton, ← left]
      have allowed := h.lt_attempts known
      omega
    obtain ⟨more, only, guided, ended⟩ :=
      ih _ fewer (h.attempted moves tried onward) onward next rfl
    refine ⟨c :: more, List.forall_mem_cons.mpr ⟨tried, only⟩, ?_, ?_⟩
    · rwa [Run.steps_cons_of_some step, List.append_cons]
    · rwa [Run.final_cons_of_some step]

/-! ### The rule -/

section

variable (rule : RetryRule) (course : Course) (batch : Nat) (config : Config) (events : List Event)
  (run : List (Step System Label Report)) (s : System)

/-- How far a run has come with a batch on which so many attempts are made in all. -/
structure Proceeds (total : ℕ∞) : Prop where
  /-- No more attempts are made. -/
  within : ((callsOn batch run).length : ℕ∞) ≤ total
  /-- When they are made, the delivery has ended. -/
  finished : s.isFinished batch = true ↔ ((callsOn batch run).length : ℕ∞) = total
  /-- Until then there may be another one. -/
  possible : ∀ draw outcome,
    (s.next? (.attempt batch draw outcome)).isSome = true ↔ ((callsOn batch run).length : ℕ∞) < total
  /-- Each one is made with the configuration and the events that were handed over. -/
  calls : ∀ call ∈ callsOn batch run, call = (config, events)
  /-- After every attempt but the last one the batch waits for the next delay of its own. -/
  pauses : (pausesOn batch run).map some =
    (List.range (if s.isFinished batch then (callsOn batch run).length - 1
      else (callsOn batch run).length)).map (rule.backoff.delay? course.draws)
  /-- Nothing final is said before the end. -/
  unspoken : s.isFinished batch = false → lastWords batch run = []

/-- A run has come as far with a batch as the rule has it. Attempts are made until an answer concludes the
matter, but no more than the rule allows. At the end there is one last word: that the batch was sent or
cannot be sent, as the last answer says, or that it was tried as often as allowed. -/
structure KeepsToRule : Prop extends
    Proceeds rule course batch config events run s (min course.conclusion rule.attempts) where
  spoken : s.isFinished batch = true →
    lastWords batch run = [course.lastWord events.length (callsOn batch run).length]

end

section

variable {labels : List Label} {config : Config} {events : List Event}
  (handed : (batch, config, events) ∈ handovers (effectsIn (Run.steps next? { settings } labels)))
  (guides : Guides course batch (Run.steps next? { settings } labels))
include handed guides

/-- A batch that was handed over proceeds, and what is said at the end tells whether all was done that was
asked for. -/
theorem proceeds_of_run :
    Proceeds settings.retryRule course batch config events (Run.steps next? { settings } labels)
      (Run.final next? { settings } labels) (course.total settings.retryRule) ∧
    ((Run.final next? { settings } labels).isFinished batch = true →
      (course.total settings.retryRule = course.asked settings.retryRule →
        lastWords batch (Run.steps next? { settings } labels) =
          [course.lastWord events.length (callsOn batch (Run.steps next? { settings } labels)).length]) ∧
      (course.total settings.retryRule < course.asked settings.retryRule →
        (Run.final next? { settings } labels).hasCrashed batch = true)) := by
  cases fares_of_run settings labels guides with
  | ahead unknown unhanded => exact absurd rfl (unhanded _ handed)
  | @begun config' events' progress known sole calls stands =>
    obtain ⟨rfl, rfl⟩ := Prod.mk.inj (sole _ handed rfl)
    -- Each attempt is one call, so what is known of the attempts holds of the calls.
    have count : (attemptsOn batch (Run.steps next? { settings } labels)).length =
        (callsOn batch (Run.steps next? { settings } labels)).length := by
      rw [calls, List.length_replicate]
    obtain ⟨⟨within, reached⟩, paused, untold, closing⟩ := stands.account
    rw [count] at within reached paused closing
    have finished := isFinished_of_progress? known
    refine ⟨⟨within, finished ▸ reached, fun draw outcome => ?_, ?_, finished ▸ paused,
      finished ▸ untold⟩, ?_⟩
    · rw [isSome_attempt known draw outcome, Bool.not_eq_true', ← Bool.not_eq_true, reached]
      exact within.lt_iff_ne.symm
    · rw [calls]
      exact fun call hc => List.eq_of_mem_replicate hc
    · rw [finished, hasCrashed_of_progress? known]
      exact closing

/-- Attempts alone bring a batch that was handed over to its end. -/
theorem exists_end_of_run : ∃ more, (∀ c ∈ more, c.tried? = some batch) ∧
    Guides course batch (Run.steps next? { settings } (labels ++ more)) ∧
    (Run.final next? { settings } (labels ++ more)).isFinished batch = true := by
  cases fares_of_run settings labels guides with
  | ahead unknown unhanded => exact absurd rfl (unhanded _ handed)
  | begun _ _ known _ _ _ =>
    obtain ⟨more, only, guided, ended⟩ :=
      (fares_of_run settings labels guides).exists_end guides known
    refine ⟨more, only, ?_, ?_⟩
    · rwa [Run.steps_append]
    · rwa [Run.final_append]

end

/-- What was handed over in a run was handed over in a longer one. -/
theorem handed_append {entry : Nat × Config × List Event} {labels : List Label}
    (handed : entry ∈ handovers (effectsIn (Run.steps next? { settings } labels))) (more : List Label) :
    entry ∈ handovers (effectsIn (Run.steps next? { settings } (labels ++ more))) := by
  rw [Run.steps_append, effectsIn, List.flatMap_append, handovers_append]
  exact List.mem_append_left _ handed

/-- In every run, let a batch be handed over and let the attempts on it come out as in a course. However the
run goes on, the batch fares as the rule has it: exactly if every delay before an attempt that is asked for
can be taken. A delay that cannot be taken is where the attempts stop, and the delivery has crashed instead
of having a last word. In any case the attempts that are left, without anything else, bring the delivery to
its end. Delays of any other making are those without a base: they are what is drawn, and if they can be
stored they can be taken. -/
theorem keepsToRule_iff (settings : OutboxSettings) (labels : List Label) (course : Course)
    (batch : Nat) (config : Config) (events : List Event)
    (handed : (batch, config, events) ∈ handovers (effectsIn (Run.steps next? { settings } labels)))
    (guides : Guides course batch (Run.steps next? { settings } labels)) :
    ((∀ more, Guides course batch (Run.steps next? { settings } (labels ++ more)) →
        KeepsToRule settings.retryRule course batch config events
          (Run.steps next? { settings } (labels ++ more)) (Run.final next? { settings } (labels ++ more))) ↔
      ∀ i : Nat, ((i + 1 : Nat) : ℕ∞) < min course.conclusion settings.retryRule.attempts →
        settings.retryRule.backoff.delay? course.draws i ≠ none) ∧
    (Proceeds settings.retryRule course batch config events (Run.steps next? { settings } labels)
        (Run.final next? { settings } labels)
        (min (min course.conclusion settings.retryRule.attempts)
          (settings.retryRule.backoff.firstRefusal course.draws)) ∧
      (settings.retryRule.backoff.firstRefusal course.draws <
          min course.conclusion settings.retryRule.attempts →
        (Run.final next? { settings } labels).isFinished batch = true →
        (Run.final next? { settings } labels).hasCrashed batch = true)) ∧
    (∃ more, (∀ c ∈ more, c.tried? = some batch) ∧
      Guides course batch (Run.steps next? { settings } (labels ++ more)) ∧
      (Run.final next? { settings } (labels ++ more)).isFinished batch = true) ∧
    ∀ jitter, settings.retryRule.backoff = .ofBase .none .none jitter →
      (∀ n, (course.draws n).nanoseconds < Duration.limit) →
      KeepsToRule settings.retryRule course batch config events (Run.steps next? { settings } labels)
          (Run.final next? { settings } labels) ∧
        pausesOn batch (Run.steps next? { settings } labels) =
          (List.range (pausesOn batch (Run.steps next? { settings } labels)).length).map course.draws := by
  let rule := settings.retryRule
  -- As soon as all is done that is asked for, the rule is kept in every run that goes on from here.
  have keeps (all : course.total rule = course.asked rule) (more : List Label)
      (guided : Guides course batch (Run.steps next? { settings } (labels ++ more))) :
      KeepsToRule rule course batch config events (Run.steps next? { settings } (labels ++ more))
        (Run.final next? { settings } (labels ++ more)) := by
    obtain ⟨proceeds, closing⟩ := proceeds_of_run (handed_append handed more) guided
    rw [all] at proceeds
    exact ⟨proceeds, fun ended => (closing ended).1 all⟩
  obtain ⟨proceeds, closing⟩ := proceeds_of_run handed guides
  refine ⟨⟨fun kept => ?_, fun delayed => keeps (Course.total_eq_asked_iff_delayed.mpr delayed)⟩,
    ⟨proceeds, fun refused ended => (closing ended).2 ?_⟩, exists_end_of_run handed guides, ?_⟩
  · -- At its end the delivery has had as many calls as the rule asks for, so no delay was missing.
    obtain ⟨more, -, guided, ended⟩ := exists_end_of_run handed guides
    obtain ⟨further, -⟩ := proceeds_of_run (handed_append handed more) guided
    apply Course.total_eq_asked_iff_delayed.mp
    exact (further.finished.mp ended).symm.trans ((kept more guided).finished.mp ended)
  · exact (min_le_right _ _).trans_lt refused
  · -- Without a base there is nothing to double, and nothing is added to what is drawn.
    intro jitter drawn storable
    have taken (n : Nat) : rule.backoff.delay? course.draws n = some (course.draws n) := by
      rw [show rule.backoff = _ from drawn]
      exact Backoff.delay?_of_none jitter storable n
    have all : course.total rule = course.asked rule :=
      Course.total_eq_asked_iff_delayed.mpr fun n _ => taken n ▸ Option.some_ne_none _
    have kept := keeps all []
    rw [List.append_nil] at kept
    refine ⟨kept guides, ?_⟩
    obtain ⟨waits, paused⟩ : ∃ waits, (pausesOn batch (Run.steps next? { settings } labels)).map some =
        (List.range waits).map (rule.backoff.delay? course.draws) := ⟨_, proceeds.pauses⟩
    rw [funext taken, ← Function.comp_def, ← List.map_map] at paused
    have same := List.map_injective_iff.mpr (Option.some_injective _) paused
    rw [same, List.length_map, List.length_range]

/-- Every event is a batch, and every batch is tried twice. -/
def hasty : OutboxSettings := { batchSize := 1, retry := { retries := 1, backoff := .constant ⟨7⟩ } }

/-- Choices by which one batch is tried in vain while another one is sent. -/
def sideBySide : List Label :=
  oneBatch ++ [.send "id" ⟨"", "left", [("vuid", "u")], []⟩, .attempt 0 .none (.failed .network),
    .attempt 1 .none (.status 200), .attempt 0 .none (.status 503)]

/-- The platform cannot be reached at first, and is busy from then on. -/
def busy : Course := ⟨fun n => if n = 0 then .error .network else .ok 503, fun _ => .none⟩

theorem keepsToRule_busy :
    lastWords 0 (Run.steps next? { settings := hasty } sideBySide) = [.exhausted 1 2] ∧
      (pausesOn 0 (Run.steps next? { settings := hasty } sideBySide)).map some = [some ⟨7⟩] := by
  have guides : Guides busy 0 (Run.steps next? { settings := hasty } sideBySide) := by
    intro n step found
    match n with
    | 0 | 1 =>
      obtain rfl := Option.some.inj found
      rfl
    | n + 2 => exact absurd found.symm (Option.some_ne_none step)
  have handed : handovers (effectsIn (Run.steps next? { settings := hasty } sideBySide))
      = [(0, ⟨"key", "https://host", "", []⟩,
          [prepared hasty "id" ⟨"", "seen", [("vuid", "u")], []⟩]),
        (1, ⟨"key", "https://host", "", []⟩,
          [prepared hasty "id" ⟨"", "left", [("vuid", "u")], []⟩])] := rfl
  have moderate : hasty.retryRule.backoff.IsModerate := trivial
  have lasting := moderate.firstRefusal_eq_top busy.draws fun _ => le_rfl
  have delayed (i : Nat) : hasty.retryRule.backoff.delay? busy.draws i ≠ none :=
    lt_firstTime_iff.mp (lasting.symm ▸ ENat.natCast_lt_top (i + 1)) i i.lt_succ_self
  have kept := (keepsToRule_iff hasty sideBySide busy 0 _ _ (handed ▸ List.mem_cons_self) guides).1.mpr
    (fun i _ => delayed i) []
  rw [List.append_nil] at kept
  exact ⟨(kept guides).spoken rfl, (kept guides).pauses⟩

/-- Every event is a batch, and the delays begin with one that is the greatest, but cannot be doubled. -/
def patient : OutboxSettings :=
  { batchSize := 1, retry := { backoff := .ofBase (.ofSeconds (2 ^ 63)) (.ofSeconds (2 ^ 63)) .none } }

/-- The platform is busy at first, and takes the batch then. -/
def recovering : Course := ⟨fun n => if n = 0 then .ok 503 else .ok 200, fun _ => .none⟩

/-- Choices by which a batch is tried once in vain. -/
def triedOnce : List Label := oneBatch ++ [.attempt 0 .none (.status 503)]

/-- Two attempts are asked for, and the second one would have sent the batch. But after the first one the
delay cannot be taken, and the delivery has crashed without a last word. -/
theorem not_keepsToRule_of_overflow :
    handovers (effectsIn (Run.steps next? { settings := patient } triedOnce)) =
      [(0, ⟨"key", "https://host", "", []⟩, [prepared patient "id" ⟨"", "seen", [("vuid", "u")], []⟩])] ∧
    Guides recovering 0 (Run.steps next? { settings := patient } triedOnce) ∧
    min recovering.conclusion patient.retryRule.attempts = 2 ∧
    (callsOn 0 (Run.steps next? { settings := patient } triedOnce)).length = 1 ∧
    (Run.final next? { settings := patient } triedOnce).hasCrashed 0 = true ∧
    lastWords 0 (Run.steps next? { settings := patient } triedOnce) = [] ∧
    ¬ KeepsToRule patient.retryRule recovering 0 ⟨"key", "https://host", "", []⟩
      [prepared patient "id" ⟨"", "seen", [("vuid", "u")], []⟩]
      (Run.steps next? { settings := patient } triedOnce)
      (Run.final next? { settings := patient } triedOnce) := by
  have guides : Guides recovering 0 (Run.steps next? { settings := patient } triedOnce) := by
    intro n step found
    match n with
    | 0 =>
      obtain rfl := Option.some.inj found
      rfl
    | n + 1 => exact absurd found.symm (Option.some_ne_none step)
  have silent : lastWords 0 (Run.steps next? { settings := patient } triedOnce) = [] := rfl
  have concluded : recovering.conclusion = (2 : Nat) := firstTime_eq (by decide) rfl
  have asked : min recovering.conclusion patient.retryRule.attempts = 2 :=
    concluded ▸ min_eq_left (Nat.cast_le.mpr (by decide))
  refine ⟨rfl, guides, asked, rfl, rfl, silent, fun kept => ?_⟩
  have spoken := kept.spoken rfl
  rw [silent] at spoken
  cases spoken

end Outbox.System

end Targeting.Platform
