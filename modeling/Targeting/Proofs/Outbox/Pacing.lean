import Targeting.Platform.Channel
import Targeting.Proofs.Outbox.Conservation

/-!
# The queue and its timer

Between two steps the queue is shorter than a full batch, and the timer is set exactly while the queue
waits for more. It was set when the first event in the queue was accepted, so no event waits for
longer than the interval. A timer that was cancelled has an earlier generation than the current one
and does nothing when it fires.

## Main definitions

* `Outbox.Paced` — queue and timer go together
* `Outbox.Paces` — a step of the outbox that keeps them together
* `System.Punctual` — the same of the system, with the history of the timer and of the batches

## Main results

* `System.Ordered.paces` — every step keeps queue and timer together
* `System.Punctual.next` — every step keeps the history right
* `System.pace_of_run` — what holds of queue, timer and batches in every run
-/

namespace Targeting.Platform

theorem OutboxSettings.fullBatch_pos (settings : OutboxSettings) : 0 < settings.fullBatch := by
  unfold fullBatch
  split
  · exact Nat.one_pos
  · exact Nat.lt_of_lt_of_le Nat.one_pos (Nat.le_max_left ..)

/-- A delivery that goes on has the batch and the configuration that it began with. -/
theorem Delivery.same_of_wait {d next : Delivery} {draw delay : Duration} {outcome : Outcome}
    {said : List Outbox.Notice} (received : d.receive draw outcome = (said, .wait delay next)) :
    next.config = d.config ∧ next.batch = d.batch := by
  have retried : (d.retry draw).2 = .wait delay next := by
    unfold receive at received
    split at received
    · exact absurd (Prod.mk.inj received).2 (by simp)
    · exact (Prod.mk.inj received).2
  unfold retry at retried
  split at retried
  · exact absurd retried (by simp)
  · split at retried
    · exact absurd retried (by simp)
    · obtain ⟨-, rfl⟩ := Sequel.wait.inj retried
      exact ⟨rfl, rfl⟩

namespace Outbox

variable {settings : OutboxSettings} {finished : Nat → Bool} {o p q : Outbox}
  {effects : List Effect}

/-! ### Queue and timer -/

/-- Queue and timer go together: the queue is shorter than a full batch and within its limit, and the
timer of the current generation is set exactly while something is queued. -/
structure Paced (settings : OutboxSettings) (o : Outbox) : Prop where
  short : o.queue.length < settings.fullBatch
  room : o.queue.length ≤ settings.queueSize
  timer : o.timer = if o.queue = [] then none else some o.generation

theorem queue_of_mem_inQueue {batch : Nat × Config × List Event} (h : batch ∈ o.inQueue) :
    batch.2.2 = o.queue := by
  unfold inQueue at h
  split at h
  · exact absurd h List.not_mem_nil
  · obtain ⟨config, -, rfl⟩ := List.mem_map.mp h
    rfl

/-- The greatest number of events in a batch. -/
def limit (settings : OutboxSettings) : Nat := min settings.fullBatch settings.queueSize

namespace Paced

theorem of_queue_nil (queue : o.queue = []) (timer : o.timer = none) : Paced settings o where
  short := by
    rw [queue]
    exact settings.fullBatch_pos
  room := by
    rw [queue]
    exact Nat.zero_le _
  timer := by rw [timer, if_pos queue]

variable (h : Paced settings o)
include h

theorem eq_generation {generation : Nat} (set : o.timer = some generation) :
    generation = o.generation := by
  rw [h.timer] at set
  split at set
  · exact absurd set (by simp)
  · exact (Option.some.inj set).symm

theorem length_le : o.queue.length ≤ limit settings :=
  Nat.le_min.mpr ⟨Nat.le_of_lt h.short, h.room⟩

theorem queue_ne_nil_iff : o.queue ≠ [] ↔ o.timer = some o.generation := by
  rw [h.timer]
  by_cases queued : o.queue = [] <;> simp [queued]

end Paced

/-- A step of the outbox keeps queue and timer together. What it cancels is out of date from then on,
what it hands over is a batch of allowed size, and the timer that is set after it was set before or is
set by it, which happens when it accepts the first event of a queue. -/
structure Paces (settings : OutboxSettings) (o : Outbox) (effects : List Effect) (p : Outbox) :
    Prop where
  paced : Paced settings p
  later : o.generation ≤ p.generation
  cancelled : ∀ generation, .cancelled generation ∈ effects → generation < p.generation
  sizes : ∀ batch ∈ handovers effects, batch.2.2 ≠ [] ∧ batch.2.2.length ≤ limit settings
  timer : ∀ generation, p.timer = some generation →
    o.timer = some generation ∨ generation ∈ effects.filterMap Effect.armed?
  origin : p.queue ≠ [] →
    o.queue ≠ [] ∧ p.generation = o.generation ∧ p.queue = o.queue ++ acceptances effects ∨
    ∃ first, effects = [.accepted first, .armed p.generation] ∧ p.queue = [first]

namespace Paces

/-- Queue and timer stay as they are, and nothing but words comes out. -/
theorem of_rest (h : Paced settings o) (queue : p.queue = o.queue) (timer : p.timer = o.timer)
    (generation : p.generation = o.generation) (said : List Notice)
    (words : effects = said.map .said) : Paces settings o effects p where
  paced := ⟨queue ▸ h.short, queue ▸ h.room, by rw [timer, queue, generation, h.timer]⟩
  later := Nat.le_of_eq generation.symm
  cancelled g hg := by simp [words] at hg
  sizes := by simp [words, handovers, List.filterMap_map, Function.comp_def, Effect.handover?]
  timer g set := .inl (timer ▸ set)
  origin queued := by
    refine .inl ⟨queue ▸ queued, generation, ?_⟩
    simp [words, queue, acceptances, List.filterMap_map, Function.comp_def, Effect.accepted?]

/-- A flush empties the queue and leaves no timer behind. -/
theorem of_flush (h : q.Deliverable) (current : ∀ g, q.timer = some g → g = q.generation)
    (later : o.generation ≤ q.generation) (size : q.queue.length ≤ limit settings)
    (queue : p.queue = []) (timer : p.timer = none)
    (generation : p.generation = (q.flush finished).1.generation) :
    Paces settings o (q.flush finished).2 p := by
  have next : p.generation = if q.timer.isSome then q.generation + 1 else q.generation := by
    rw [generation, h.flush_eq]
  refine ⟨.of_queue_nil queue timer, ?_, ?_, ?_, ?_, ?_⟩
  · rw [next]
    split <;> omega
  · intro g hg
    -- The only timer that is cancelled is the one that was set.
    have set : q.timer = some g := by simpa [h.flush_eq, Effect.ofHandover] using hg
    rw [next, set, current g set]
    exact Nat.lt_succ_self _
  · intro batch hb
    rw [h.flush_handovers] at hb
    exact ⟨queue_ne_nil_of_mem_inQueue hb, queue_of_mem_inQueue hb ▸ size⟩
  · intro g set
    rw [timer] at set
    exact absurd set.symm (Option.some_ne_none g)
  · exact fun queued => absurd queue queued

/-- An event is accepted, and then the queue is emptied. -/
theorem accepted_cons {event : Event} (h : Paces settings o effects p) (emptied : p.queue = []) :
    Paces settings o (.accepted event :: effects) p where
  paced := h.paced
  later := h.later
  cancelled g hg := h.cancelled g ((List.mem_cons.mp hg).resolve_left (by simp))
  sizes := h.sizes
  timer := h.timer
  origin queued := absurd emptied queued

end Paces

namespace Ready

variable (finished) (h : o.Ready) (paced : Paced settings o)
include h paced

theorem paces_flush (same : p.queue = []) (timer : p.timer = none)
    (generation : p.generation = (o.flush finished).1.generation) :
    Paces settings o (o.flush finished).2 p :=
  .of_flush h.deliverable (fun _ => paced.eq_generation) (Nat.le_refl _) paced.length_le same timer
    generation

end Ready

theorem paces_start (paced : Paced settings o) (inRuntime : Bool) :
    Paces settings o (o.start inRuntime).2.2 (o.start inRuntime).2.1 := by
  unfold start
  split
  · exact .of_rest paced rfl rfl rfl [] rfl
  · split
    · exact .of_rest paced rfl rfl rfl [] rfl
    · exact .of_rest paced rfl rfl rfl [.noRuntime] rfl

theorem paces_endStop (paced : Paced settings o) : Paces settings o o.endStop.2 o.endStop.1 :=
  .of_rest paced rfl rfl rfl [.stopped] rfl

namespace Ready

variable (finished) (h : o.Ready) (paced : Paced settings o)
include h paced

theorem paces_update (integration : Integration) :
    Paces settings o (o.update finished integration).2 (o.update finished integration).1 := by
  unfold Outbox.update
  split
  · exact .of_rest paced rfl rfl rfl [] rfl
  · exact .of_rest paced rfl rfl rfl [] rfl
  · split
    · exact .of_rest paced rfl rfl rfl [] rfl
    · exact h.paces_flush finished paced (flush_queue ..) (flush_timer ..) rfl
  · exact .of_rest paced rfl rfl rfl [.ignoredUpdate _] rfl

/-- An event joins a queue that is not full with it. The timer is set if it is the first one. -/
theorem paces_arm (running : o.status.state = .running) (event : Event)
    (short : (o.queue ++ [event]).length < settings.fullBatch)
    (room : (o.queue ++ [event]).length ≤ settings.queueSize) :
    Paces settings o (.accepted event :: { o with queue := o.queue ++ [event] }.arm.2)
      { o with queue := o.queue ++ [event] }.arm.1 := by
  have started := h.started (.inr running)
  by_cases first : o.queue = []
  · have unset : o.timer = none := by rw [paced.timer, if_pos first]
    have armed : { o with queue := o.queue ++ [event] }.arm =
        ({ o with
          queue := o.queue ++ [event]
          timer := some (o.generation + 1)
          generation := o.generation + 1 }, [.armed (o.generation + 1)]) := by
      simp [Outbox.arm, unset, started]
    rw [armed]
    refine ⟨⟨short, room, by simp⟩, Nat.le_succ _, by simp, ?_, ?_, ?_⟩
    · simp [handovers, Effect.handover?]
    · intro g set
      exact .inr (by simpa [Effect.armed?] using set)
    · exact fun _ => .inr ⟨event, rfl, by simp [first]⟩
  · have set := paced.queue_ne_nil_iff.mp first
    have armed : { o with queue := o.queue ++ [event] }.arm
        = ({ o with queue := o.queue ++ [event] }, []) := by
      simp [Outbox.arm, set]
    rw [armed]
    refine ⟨⟨short, room, by simp [set]⟩, Nat.le_refl _, by simp, ?_, fun _ => .inl, ?_⟩
    · simp [handovers, Effect.handover?]
    · exact fun _ => .inl ⟨first, rfl, rfl⟩

theorem paces_accept (running : o.status.state = .running) (integrated : o.config?.isSome = true)
    (room : o.queue.length < settings.queueSize) (event : Event) :
    Paces settings o (o.accept settings finished event).2
      (o.accept settings finished event).1 := by
  have short := paced.short
  by_cases full : settings.fullBatch ≤ (o.queue ++ [event]).length
  · rw [accept_of_full full]
    have enqueued := (h.enqueue running integrated event).deliverable
    have size : (o.queue ++ [event]).length ≤ limit settings := by
      rw [List.length_append, List.length_singleton]
      exact Nat.le_min.mpr ⟨short, room⟩
    have flushed : Paces settings o ({ o with queue := o.queue ++ [event] }.flush finished).2 _ :=
      .of_flush enqueued (fun _ => paced.eq_generation) (Nat.le_refl _) size (flush_queue ..)
        (flush_timer ..) rfl
    exact flushed.accepted_cons (flush_queue ..)
  · rw [accept_of_not_full full]
    have more : (o.queue ++ [event]).length ≤ settings.queueSize := by
      rw [List.length_append, List.length_singleton]
      exact room
    exact h.paces_arm paced running event (Nat.lt_of_not_le full) more

theorem paces_send (id : String) (event : Event) :
    Paces settings o (o.send settings finished id event).2
      (o.send settings finished id event).1 := by
  unfold Outbox.send
  cases refused : o.refusal? settings event with
  | some notice => exact .of_rest paced rfl rfl rfl [notice] rfl
  | none =>
    have admitted := refusal?_eq_none_iff.mp refused
    obtain ⟨running, integrated⟩ := of_admits admitted
    have room : o.queue.length < settings.queueSize := by
      simp only [admits, Bool.and_eq_true, decide_eq_true_eq] at admitted
      exact admitted.2
    exact h.paces_accept finished paced running integrated room _

/-- A timer of another generation was cancelled before, and its firing changes nothing. -/
theorem paces_fire (generation : Nat) :
    Paces settings o (o.fire finished generation).2 (o.fire finished generation).1 := by
  unfold Outbox.fire
  split
  · refine .of_flush (q := { o with timer := none }) h.deliverable (fun g set => ?_)
      (Nat.le_refl _) paced.length_le (flush_queue ..) (flush_timer ..) rfl
    exact absurd set.symm (Option.some_ne_none g)
  · exact .of_rest paced rfl rfl rfl [] rfl

theorem paces_beginFlush :
    Paces settings o (o.beginFlush finished).2.2 (o.beginFlush finished).2.1 :=
  h.paces_flush finished paced (flush_queue ..) (flush_timer ..) rfl

theorem paces_beginStop :
    Paces settings o (o.beginStop finished).2.2 (o.beginStop finished).2.1 := by
  -- The status changes before the flush, and neither the queue nor the timer knows of it.
  have stopping : Paces settings o
      ({ o with status := o.status.set .stopping }.beginFlush finished).2.2
      ({ o with status := o.status.set .stopping }.beginFlush finished).2.1 :=
    .of_flush h.deliverable (fun _ => paced.eq_generation) (Nat.le_refl _) paced.length_le
      (flush_queue ..) (flush_timer ..) rfl
  unfold Outbox.beginStop
  split
  · exact .of_rest paced rfl rfl rfl [] rfl
  · exact stopping
  · exact stopping
  · exact .of_rest paced rfl rfl rfl [] rfl

end Ready

/-! ### Steps of the system -/

namespace System

variable {s t : System} {c : Label} {reports : List Report} {past : List (Step System Label Report)}

theorem Moves.settings_eq (step : s.Moves c t reports) : t.settings = s.settings := by
  cases step with
  | look | flushed | ended | delayed | finished => rfl
  | _ => simp

/-- The timers that may still fire after a choice. -/
def unfired (s : System) : Label → List Nat
  | .fire generation => s.timers.erase generation
  | _ => s.timers

theorem Moves.timers_eq (step : s.Moves c t reports) :
    t.timers = s.unfired c ++ (effectsOf reports).filterMap Effect.armed? := by
  have silent (notices : List Notice) :
      (notices.map Effect.said).filterMap Effect.armed? = [] := by
    simp [List.filterMap_map, Function.comp_def, Effect.armed?]
  cases step with
  | look =>
    unfold afterwards
    split <;> exact (List.append_nil _).symm
  | flushed | ended => exact (List.append_nil _).symm
  | delayed | finished =>
    rw [effectsOf_append, effectsOf_notices, List.filterMap_append, silent]
    exact (List.append_nil _).symm
  | start | stopped =>
    rw [effectsOf_append, effectsOf_map, applied_timers]
    exact congrArg _ (congrArg _ (List.append_nil _).symm)
  | _ =>
    rw [effectsOf_map]
    simp only [withCaller_timers, applied_timers]
    rfl

/-- Every step keeps queue and timer together. -/
theorem Ordered.paces (h : s.Ordered) (paced : Paced s.settings s.outbox)
    (step : s.Moves c t reports) : Paces s.settings s.outbox (effectsOf reports) t.outbox := by
  have ready := h.ready
  cases step with
  | start inRuntime =>
    rw [effectsOf_append, effectsOf_map, applied_outbox]
    exact List.append_nil _ ▸ paces_start paced inRuntime
  | update integration =>
    rw [effectsOf_map, applied_outbox]
    exact ready.paces_update s.isFinished paced integration
  | send id event =>
    rw [effectsOf_map, applied_outbox]
    exact ready.paces_send s.isFinished paced id event
  | flush =>
    rw [effectsOf_map, withCaller_outbox, applied_outbox]
    exact ready.paces_beginFlush s.isFinished paced
  | stop =>
    rw [effectsOf_map, withCaller_outbox, applied_outbox]
    exact ready.paces_beginStop s.isFinished paced
  | stopped =>
    rw [effectsOf_append, effectsOf_map, applied_outbox]
    exact List.append_nil _ ▸ ready.paces_beginStop s.isFinished paced
  | look =>
    rw [effectsOf_map]
    unfold afterwards
    split
    · exact .of_rest paced rfl rfl rfl [.crashed] rfl
    · exact .of_rest paced rfl rfl rfl [] rfl
  | flushed => exact .of_rest paced rfl rfl rfl [] rfl
  | ended => exact paces_endStop paced
  | @fire generation =>
    rw [effectsOf_map, applied_outbox]
    exact ready.paces_fire s.isFinished paced generation
  | delayed | finished =>
    rw [effectsOf_append, effectsOf_notices]
    exact .of_rest paced rfl rfl rfl _ (List.append_nil _)

/-- A timer that fires as the one that is set leaves none behind. -/
theorem Moves.timer_of_fire {generation : Nat} (step : s.Moves (.fire generation) t reports)
    (current : s.outbox.generation = generation) : t.outbox.timer = none := by
  cases step with
  | fire =>
    rw [applied_outbox, Outbox.fire, if_pos current]
    exact flush_timer ..

/-- The timer that is set is among those that may fire. -/
theorem Ordered.pending (h : s.Ordered) (paced : Paced s.settings s.outbox)
    (pending : ∀ g, s.outbox.timer = some g → g ∈ s.timers) (step : s.Moves c t reports) :
    ∀ g, t.outbox.timer = some g → g ∈ t.timers := by
  intro g set
  rw [step.timers_eq, List.mem_append]
  refine ((h.paces paced step).timer g set).imp (fun before => ?_) id
  cases c with
  | fire generation =>
    refine (List.mem_erase_of_ne ?_).mpr (pending g before)
    rintro rfl
    rw [step.timer_of_fire (paced.eq_generation before).symm] at set
    exact absurd set.symm (Option.some_ne_none g)
  | _ => exact pending g before

/-- A delivery under way was under way before, with the same batch, or the batch is handed over just
now. -/
theorem Moves.active_of_mem (step : s.Moves c t reports) {batch : Nat} {d : Delivery}
    (hd : (batch, .active d) ∈ t.deliveries) :
    (batch, d.config, d.batch) ∈ handovers (effectsOf reports) ∨
      ∃ old, (batch, .active old) ∈ s.deliveries ∧ d.config = old.config ∧ d.batch = old.batch := by
  have launched {effects : List Effect}
      (hd : (batch, .active d) ∈ s.deliveries ++ (handovers effects).map (launch s.settings)) :
      (batch, d.config, d.batch) ∈ handovers effects ∨
        ∃ old, (batch, .active old) ∈ s.deliveries ∧ d.config = old.config ∧ d.batch = old.batch := by
    rcases List.mem_append.mp hd with hd | hd
    · exact .inr ⟨d, hd, rfl, rfl⟩
    · obtain ⟨⟨number, config, events⟩, handed, same⟩ := List.mem_map.mp hd
      obtain ⟨rfl, active⟩ := Prod.mk.inj same
      obtain rfl := Progress.active.inj active
      exact .inl handed
  cases step with
  | look | flushed | ended => exact .inr ⟨d, hd, rfl, rfl⟩
  | delayed known received =>
    rcases mem_replace hd with hd | same
    · exact .inr ⟨d, hd, rfl, rfl⟩
    · obtain ⟨rfl, active⟩ := Prod.mk.inj same
      obtain rfl := Progress.active.inj active
      exact .inr ⟨_, mem_of_lookup known, Delivery.same_of_wait received⟩
  | finished =>
    rcases mem_replace hd with hd | same
    · exact .inr ⟨d, hd, rfl, rfl⟩
    · exact absurd (Prod.mk.inj same).2 (by simp)
  | start | stopped =>
    rw [applied_deliveries] at hd
    rw [effectsOf_append, effectsOf_map, handovers_append]
    exact (launched hd).imp_left (List.mem_append_left _)
  | flush | stop =>
    rw [withCaller_deliveries, applied_deliveries] at hd
    rw [effectsOf_map]
    exact launched hd
  | _ =>
    rw [applied_deliveries] at hd
    rw [effectsOf_map]
    exact launched hd

/-! ### Runs -/

/-- The timer of a generation was set when the first event in the queue was accepted: after this step
no event but those that are queued behind it was accepted. -/
def SetForFirst (run : List (Step System Label Report)) (generation : Nat) (queue : List Event) :
    Prop :=
  ∃ earlier step later first, run = earlier ++ step :: later ∧
    (∃ id event, step.choice = .send id event) ∧
    effectsOf step.reports = [.accepted first, .armed generation] ∧
    queue = first :: acceptances (effectsIn later)

/-- Queue and timer of a system go together after a run: the timer that is set may fire, it was set for
the first event in the queue, those that were cancelled are out of date, and all batches that were
handed over or are under way are of allowed size. -/
structure Punctual (settings : OutboxSettings) (run : List (Step System Label Report)) (s : System) :
    Prop where
  ordered : s.Ordered
  settled : s.settings = settings
  paced : Paced settings s.outbox
  pending : ∀ g, s.outbox.timer = some g → g ∈ s.timers
  origin : s.outbox.queue ≠ [] → SetForFirst run s.outbox.generation s.outbox.queue
  stale : ∀ g, .cancelled g ∈ effectsIn run → g < s.outbox.generation
  sizes : ∀ batch ∈ handovers (effectsIn run), batch.2.2 ≠ [] ∧ batch.2.2.length ≤ limit settings
  carried : ∀ batch d, (batch, .active d) ∈ s.deliveries →
    (batch, d.config, d.batch) ∈ handovers (effectsIn run)

theorem effectsIn_append_singleton (step : Step System Label Report) :
    effectsIn (past ++ [step]) = effectsIn past ++ effectsOf step.reports := by
  simp [effectsIn]

/-- An event that is accepted was sent, and could be. -/
theorem Ordered.exists_of_accepted (h : s.Ordered) (step : s.Moves c t reports) {queued : Event}
    (accepted : queued ∈ acceptances (effectsOf reports)) :
    ∃ id event, c = .send id event ∧ s.outbox.admits s.settings event = true ∧
      queued = prepared s.settings id event := by
  rw [(h.settles step).accepted] at accepted
  cases c with
  | send id event =>
    rw [admitted?, admission?] at accepted
    split at accepted
    · next admits => exact ⟨id, event, rfl, admits, List.mem_singleton.mp accepted⟩
    · exact absurd accepted List.not_mem_nil
  | _ => exact absurd accepted List.not_mem_nil

namespace Punctual

theorem initial (settings : OutboxSettings) : Punctual settings [] { settings } where
  ordered := .initial settings
  settled := rfl
  paced := .of_queue_nil rfl rfl
  pending g set := absurd set.symm (Option.some_ne_none g)
  origin queued := absurd rfl queued
  stale _ hg := absurd hg List.not_mem_nil
  sizes := List.forall_mem_nil _
  carried _ _ hd := absurd hd List.not_mem_nil

theorem next {settings : OutboxSettings} (h : Punctual settings past s)
    (step : s.Moves c t reports) : Punctual settings (past ++ [⟨s, c, t, reports⟩]) t := by
  have paced : Paced s.settings s.outbox := h.settled ▸ h.paced
  have paces : Paces settings s.outbox (effectsOf reports) t.outbox :=
    h.settled ▸ h.ordered.paces paced step
  refine ⟨h.ordered.next step, step.settings_eq.trans h.settled, paces.paced,
    h.ordered.pending paced h.pending step, ?_, ?_, ?_, ?_⟩
  · intro queued
    rcases paces.origin queued with ⟨before, same, longer⟩ | ⟨first, effects, sole⟩
    · -- The timer runs on, and what is accepted now stands at the end of the queue.
      obtain ⟨earlier, origin, later, first, split, sent, effects, queue⟩ := h.origin before
      refine ⟨earlier, origin, later ++ [⟨s, c, t, reports⟩], first, ?_, sent, ?_, ?_⟩
      · rw [split, List.append_assoc, List.cons_append]
      · rw [effects, same]
      · rw [longer, queue, effectsIn_append_singleton, acceptances_append, List.cons_append]
    · have accepted : first ∈ acceptances (effectsOf reports) := by
        rw [effects]
        exact List.mem_cons_self
      obtain ⟨id, event, sent, -⟩ := h.ordered.exists_of_accepted step accepted
      exact ⟨past, _, [], first, rfl, ⟨id, event, sent⟩, effects, sole⟩
  · intro g hg
    rw [effectsIn_append_singleton] at hg
    rcases List.mem_append.mp hg with hg | hg
    · exact Nat.lt_of_lt_of_le (h.stale g hg) paces.later
    · exact paces.cancelled g hg
  · rw [effectsIn_append_singleton, handovers_append]
    exact List.forall_mem_append.mpr ⟨h.sizes, paces.sizes⟩
  · intro batch d hd
    rw [effectsIn_append_singleton, handovers_append, List.mem_append]
    rcases step.active_of_mem hd with handed | ⟨old, ho, config, events⟩
    · exact .inr handed
    · rw [config, events]
      exact .inl (h.carried batch old ho)

end Punctual

theorem punctual_of_run (settings : OutboxSettings) (labels : List Label) :
    Punctual settings (Run.steps next? { settings } labels)
      (Run.final next? { settings } labels) :=
  Run.induction (motive := Punctual settings) (.initial settings)
    (fun _ _ _ _ _ h step => h.next (moves_of_next? step)) labels

/-- A timer that was cancelled and fires all the same changes nothing. -/
theorem Punctual.eq_of_fire {settings : OutboxSettings} (h : Punctual settings past s)
    {generation : Nat} (cancelled : .cancelled generation ∈ effectsIn past)
    (step : s.next? (.fire generation) = some (t, reports)) :
    t = { s with timers := s.timers.erase generation } ∧ reports = [] := by
  have other : s.outbox.generation ≠ generation := Nat.ne_of_gt (h.stale generation cancelled)
  cases moves_of_next? step with
  | fire =>
    rw [Outbox.fire, if_neg other]
    exact ⟨rfl, rfl⟩

/-- The channel that carries single events never finds too many or too few in a batch of one. -/
theorem request_ne_tooManyEvents {channel : Channel} {config : Config} {events : List Event}
    (sole : events.length = 1) (count : Nat) :
    channel.request config events ≠ .error (.tooManyEvents count) := by
  obtain ⟨event, rfl⟩ := List.length_eq_one_iff.mp sole
  cases channel with
  | rest => exact fun h => by simp [Channel.request] at h
  | pixel =>
    cases url : Channel.pixelUrl config event <;> simp [Channel.request, url]

theorem Punctual.length_eq_one {settings : OutboxSettings} (h : Punctual settings past s)
    (single : settings.fullBatch = 1) {batch : Nat × Config × List Event}
    (hb : batch ∈ handovers (effectsIn past)) : batch.2.2.length = 1 := by
  obtain ⟨nonempty, size⟩ := h.sizes batch hb
  have bound : limit settings ≤ 1 := single ▸ Nat.min_le_left ..
  have positive := List.length_pos_iff.mpr nonempty
  omega

/-- After any run the queue is shorter than a full batch and not longer than its limit. It is not empty
if and only if the timer is set, which is then the one of the current generation, among those that may
fire, and set when the first event in the queue was accepted; and only a running outbox with a
configuration has anything in its queue. Every batch that was handed over has at least one event and
at most as many as make up a full batch or fill the queue; a cancelled timer that fires changes
nothing; and where one event makes up a batch, every batch has one event, and no delivery has more
than an image can carry. -/
theorem pace_of_run (settings : OutboxSettings) (labels : List Label) :
    let run := Run.steps next? { settings } labels
    let s := Run.final next? { settings } labels
    (s.outbox.queue.length < settings.fullBatch ∧ s.outbox.queue.length ≤ settings.queueSize) ∧
      (s.outbox.queue ≠ [] ↔ ∃ generation, s.outbox.timer = some generation) ∧
      (∀ generation, s.outbox.timer = some generation →
        generation = s.outbox.generation ∧ generation ∈ s.timers ∧
          SetForFirst run generation s.outbox.queue) ∧
      (s.outbox.queue ≠ [] → s.outbox.status.state = .running ∧
        ∃ config, s.outbox.integration = some (.integrated config)) ∧
      (∀ batch ∈ handovers (effectsIn run), 1 ≤ batch.2.2.length ∧
        batch.2.2.length ≤ min settings.fullBatch settings.queueSize) ∧
      (∀ generation t reports, .cancelled generation ∈ effectsIn run →
        s.next? (.fire generation) = some (t, reports) →
        t = { s with timers := s.timers.erase generation } ∧ reports = []) ∧
      (settings.fullBatch = 1 →
        (∀ batch ∈ handovers (effectsIn run), batch.2.2.length = 1) ∧
          ∀ batch d count, (batch, .active d) ∈ s.deliveries →
            Channel.pixel.request d.config d.batch ≠ .error (.tooManyEvents count)) := by
  intro run s
  have h : Punctual settings run s := punctual_of_run settings labels
  refine ⟨⟨h.paced.short, h.paced.room⟩, ?_, ?_, ?_, ?_, ?_, ?_⟩
  · rw [h.paced.timer]
    by_cases queued : s.outbox.queue = [] <;> simp [queued]
  · intro generation set
    obtain rfl := h.paced.eq_generation set
    exact ⟨rfl, h.pending _ set, h.origin (h.paced.queue_ne_nil_iff.mpr set)⟩
  · intro queued
    obtain ⟨running, config, integrated⟩ := h.ordered.ready.queued queued
    refine ⟨running, config, ?_⟩
    obtain ⟨integration, known, same⟩ := Option.bind_eq_some_iff.mp integrated
    cases integration with
    | notIntegrated => exact absurd same.symm (Option.some_ne_none config)
    | integrated other => rw [known, Option.some.inj same]
  · intro batch hb
    obtain ⟨nonempty, size⟩ := h.sizes batch hb
    exact ⟨List.length_pos_iff.mpr nonempty, size⟩
  · exact fun generation t reports cancelled step => h.eq_of_fire cancelled step
  · intro single
    refine ⟨fun batch hb => h.length_eq_one single hb, fun batch d count hd => ?_⟩
    exact request_ne_tooManyEvents (h.length_eq_one single (h.carried batch d hd)) count

end System

end Outbox

end Targeting.Platform
