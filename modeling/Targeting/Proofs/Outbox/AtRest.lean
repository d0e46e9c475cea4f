import Targeting.Proofs.Outbox.Pacing

/-!
# An outbox that is over

An outbox that is stopping, has stopped or has failed is *over*, and stays so. The step that makes it
over hands over what was still queued, as one indivisible step. From then on there is nothing in the
queue and no timer, so all that calls, late timers and waiting callers bring about is words: a flush
finds nothing, an event is refused, and a new configuration is not taken on.

## Main definitions

* `Outbox.AtRest` — the outbox is over, with nothing queued and no timer set
* `Outbox.Rests` — a step of the outbox that brings about nothing but words

## Main results

* `System.rests` — every step of a system whose outbox is at rest is one of these
* `System.words_of_run` — so is every run
* `System.life_of_run` — the life of an outbox in every run
-/

namespace Targeting.Platform.Outbox

variable {settings : OutboxSettings} {finished : Nat → Bool} {o p : Outbox} {effects : List Effect}

/-- The outbox is over, with nothing queued and no timer set. -/
structure AtRest (o : Outbox) : Prop where
  closed : o.status.state.isOver = true
  queue : o.queue = []
  timer : o.timer = none

/-- A step of the outbox that brings about nothing but words. -/
structure Rests (o : Outbox) (effects : List Effect) (p : Outbox) : Prop where
  queue : p.queue = []
  timer : p.timer = none
  integration : p.integration = o.integration
  words : ∃ said : List Notice, effects = said.map .said

theorem AtRest.of_paced (closed : o.status.state.isOver = true) (ready : o.Ready)
    (paced : Paced settings o) : o.AtRest := by
  have queue := ready.queue_eq_nil (State.ne_running_of_isOver closed)
  exact ⟨closed, queue, by rw [paced.timer, if_pos queue]⟩

namespace AtRest

variable (h : o.AtRest)
include h

theorem state_eq : o.status.state = .stopping ∨ o.status.state = .terminated ∨
    o.status.state = .failed := by
  have closed := h.closed
  cases state : o.status.state with
  | new | starting | running =>
    rw [state] at closed
    exact absurd closed Bool.false_ne_true
  | stopping => exact .inl rfl
  | terminated => exact .inr (.inl rfl)
  | failed => exact .inr (.inr rfl)

/-- Only words come out, and no more than the status or the deliveries have changed. -/
theorem rests (queue : p.queue = o.queue) (timer : p.timer = o.timer)
    (integration : p.integration = o.integration) (said : List Notice) :
    Rests o (said.map .said) p :=
  ⟨queue.trans h.queue, timer.trans h.timer, integration, said, rfl⟩

theorem rests_start (inRuntime : Bool) :
    Rests o (o.start inRuntime).2.2 (o.start inRuntime).2.1 := by
  have old : o.status.state ≠ .new := by
    rcases h.state_eq with state | state | state <;> rw [state] <;> decide
  rw [start, if_pos old]
  exact h.rests rfl rfl rfl []

theorem rests_update (integration : Integration) :
    Rests o (o.update finished integration).2 (o.update finished integration).1 := by
  have ignored : o.update finished integration = (o, [.said (.ignoredUpdate o.status.state)]) := by
    rcases h.state_eq with state | state | state <;> simp only [update, state]
  rw [ignored]
  exact h.rests rfl rfl rfl [_]

theorem rests_send (id : String) (event : Event) :
    Rests o (o.send settings finished id event).2 (o.send settings finished id event).1 := by
  have idle := State.ne_running_of_isOver h.closed
  have refused : o.refusal? settings event = some (.notRunning o.status.state event.action) := by
    rw [refusal?, if_pos idle]
  simp only [send, refused]
  exact h.rests rfl rfl rfl [_]

/-- A flush finds nothing to cancel and nothing to hand over. -/
theorem rests_flush : Rests o (o.flush finished).2 (o.flush finished).1 := by
  have deliverable : o.Deliverable := fun queued => absurd h.queue queued
  have silent : (o.flush finished).2 = [] := by
    rw [deliverable.flush_eq, h.timer, inQueue_of_nil h.queue]
    rfl
  exact ⟨flush_queue .., flush_timer .., flush_integration .., [], silent⟩

theorem rests_fire (generation : Nat) :
    Rests o (o.fire finished generation).2 (o.fire finished generation).1 := by
  have unset : { o with timer := none }.AtRest := ⟨h.closed, h.queue, rfl⟩
  unfold fire
  split
  · -- No timer was set, so taking it out first makes no difference.
    have flushed := @rests_flush finished _ unset
    exact ⟨flushed.queue, flushed.timer, flushed.integration, flushed.words⟩
  · exact h.rests rfl rfl rfl []

theorem rests_beginFlush : Rests o (o.beginFlush finished).2.2 (o.beginFlush finished).2.1 :=
  ⟨flush_queue .., flush_timer .., flush_integration .., h.rests_flush.words⟩

theorem rests_beginStop : Rests o (o.beginStop finished).2.2 (o.beginStop finished).2.1 := by
  have ignored : o.beginStop finished = (none, o, []) := by
    rcases h.state_eq with state | state | state <;> simp only [beginStop, state]
  rw [ignored]
  exact h.rests rfl rfl rfl []

theorem rests_endStop : Rests o o.endStop.2 o.endStop.1 :=
  ⟨h.queue, h.timer, rfl, [.stopped], rfl⟩

end AtRest

namespace System

variable {s t : System} {c : Label} {reports : List Report}

theorem exists_afterwards (progress : Progress) :
    ∃ said : List Notice, afterwards progress = said.map .said := by
  unfold afterwards
  split
  · exact ⟨[.crashed], rfl⟩
  · exact ⟨[], rfl⟩

/-- Every step of a system whose outbox is at rest brings about nothing but words. -/
theorem rests (h : s.outbox.AtRest) (step : s.Moves c t reports) :
    Rests s.outbox (effectsOf reports) t.outbox := by
  cases step with
  | start inRuntime =>
    have silent : effectsOf [.started (s.outbox.start inRuntime).1] = [] := rfl
    rw [effectsOf_append, effectsOf_map, applied_outbox, silent, List.append_nil]
    exact h.rests_start inRuntime
  | update integration =>
    rw [effectsOf_map, applied_outbox]
    exact h.rests_update integration
  | send id event =>
    rw [effectsOf_map, applied_outbox]
    exact h.rests_send id event
  | flush =>
    rw [effectsOf_map, withCaller_outbox, applied_outbox]
    exact h.rests_beginFlush
  | stop =>
    rw [effectsOf_map, withCaller_outbox, applied_outbox]
    exact h.rests_beginStop
  | @stopped n =>
    have silent : effectsOf [.returned n] = [] := rfl
    rw [effectsOf_append, effectsOf_map, applied_outbox, silent, List.append_nil]
    exact h.rests_beginStop
  | @look _ _ _ _ progress =>
    obtain ⟨said, words⟩ := exists_afterwards progress
    rw [effectsOf_map, words]
    exact h.rests rfl rfl rfl said
  | flushed => exact h.rests rfl rfl rfl []
  | ended => exact h.rests_endStop
  | @fire generation =>
    rw [effectsOf_map, applied_outbox]
    exact h.rests_fire generation
  | @delayed batch _ delay =>
    have silent : effectsOf [.waits batch delay] = [] := rfl
    rw [effectsOf_append, effectsOf_notices, silent, List.append_nil]
    exact h.rests rfl rfl rfl _
  | @finished batch _ _ _ _ ending =>
    have silent : effectsOf [.ended batch ending] = [] := rfl
    rw [effectsOf_append, effectsOf_notices, silent, List.append_nil]
    exact h.rests rfl rfl rfl _

/-! ### Runs -/

/-- Whatever happens to a system whose outbox is at rest brings about nothing but words. -/
theorem words_of_run (ordered : s.Ordered) (h : s.outbox.AtRest) (labels : List Label) :
    (Run.final next? s labels).outbox.AtRest ∧
      (Run.final next? s labels).outbox.integration = s.outbox.integration ∧
      ∃ said : List Notice, effectsIn (Run.steps next? s labels) = said.map .said := by
  -- Good order is needed beside the rest: without it the end of a stop could start anything.
  suffices (Run.final next? s labels).Ordered ∧ (Run.final next? s labels).outbox.AtRest ∧
      (Run.final next? s labels).outbox.integration = s.outbox.integration ∧
      ∃ said : List Notice, effectsIn (Run.steps next? s labels) = said.map .said from this.2
  refine Run.induction (motive := fun past t => t.Ordered ∧ t.outbox.AtRest ∧
    t.outbox.integration = s.outbox.integration ∧
    ∃ said : List Notice, effectsIn past = said.map .said) ?_ ?_ labels
  · exact ⟨ordered, h, rfl, [], rfl⟩
  · rintro past t c u reports ⟨ordered, atRest, integration, said, words⟩ step
    have moves := moves_of_next? step
    have rests := rests atRest moves
    obtain ⟨more, words'⟩ := rests.words
    refine ⟨ordered.next moves, ⟨?_, rests.queue, rests.timer⟩, ?_, said ++ more, ?_⟩
    · exact (ordered.leads moves).isOver atRest.closed
    · exact rests.integration.trans integration
    · rw [effectsIn_append_singleton, words, words', List.map_append]

/-- Words accept no event, hand no batch over and set no timer. -/
theorem nothing_of_words (said : List Notice) :
    acceptances (said.map .said) = [] ∧ handovers (said.map .said) = [] ∧
      (said.map .said).filterMap Effect.armed? = [] := by
  refine ⟨?_, ?_, ?_⟩ <;>
    exact List.filterMap_eq_nil_iff.mpr (List.forall_mem_map.mpr fun _ _ => rfl)

/-- After any run the next step moves the status along an edge of its life, if it moves it at all; and
an outbox that is running has something to run deliveries and a configuration. An outbox that is
stopping, has stopped or has failed stays so whatever happens next: its queue is empty and its timer
is not set, it keeps its configuration, and it accepts no event, hands no batch over and sets no
timer. -/
theorem life_of_run (settings : OutboxSettings) (labels : List Label) :
    let s := Run.final next? { settings } labels
    (∀ c t reports, s.next? c = some (t, reports) →
      s.outbox.status.state.Leads t.outbox.status.state) ∧
    (s.outbox.status.state = .running →
      s.outbox.hasRuntime = true ∧ ∃ integration, s.outbox.integration = some integration) ∧
    (s.outbox.status.state.isOver = true → ∀ more,
      let t := Run.final next? s more
      let effects := effectsIn (Run.steps next? s more)
      t.outbox.status.state.isOver = true ∧ t.outbox.queue = [] ∧ t.outbox.timer = none ∧
        t.outbox.integration = s.outbox.integration ∧
        acceptances effects = [] ∧ handovers effects = [] ∧
        effects.filterMap Effect.armed? = []) := by
  intro s
  have h : Punctual settings _ s := punctual_of_run settings labels
  refine ⟨?_, ?_, ?_⟩
  · intro c t reports step
    exact h.ordered.leads (moves_of_next? step)
  · intro running
    have ready := h.ordered.ready
    exact ⟨ready.started (.inr running), Option.isSome_iff_exists.mp (ready.configured running)⟩
  · intro closed more t effects
    have atRest : s.outbox.AtRest := .of_paced closed h.ordered.ready h.paced
    obtain ⟨still, integration, said, words⟩ := words_of_run h.ordered atRest more
    refine ⟨still.closed, still.queue, still.timer, integration, ?_⟩
    have silent := nothing_of_words said
    rw [← words] at silent
    exact silent

/-- Choices after which an event waits in the queue. -/
def oneQueued : List Label :=
  [.start true, .update (.integrated ⟨"key", "https://host", "", []⟩),
    .send "id" ⟨"", "seen", [("vuid", "u")], []⟩]

/-- Choices that come too late after a stop: an event, a configuration, a timer and a start. -/
def tooLate : List Label :=
  [.send "id" ⟨"", "seen", [("vuid", "u")], []⟩, .update .notIntegrated, .fire 1, .flush 1,
    .start true]

/-- The event that was queued is handed over by the call to stop, and what comes later changes
nothing. -/
theorem life_of_run_too_late :
    let r := Run.final next? { settings := {} } oneQueued
    let s := Run.final next? { settings := {} } (oneQueued ++ [.stop 0])
    (r.outbox.status.state = .running ∧ r.outbox.hasRuntime = true) ∧
      r.outbox.status.state.Leads s.outbox.status.state ∧
      s.outbox.status.state = .stopping ∧ s.outbox.handedOver = 1 ∧
      (Run.final next? s tooLate).outbox.integration = s.outbox.integration ∧
      handovers (effectsIn (Run.steps next? s tooLate)) = [] := by
  obtain ⟨leads, ready, -⟩ := life_of_run {} oneQueued
  obtain ⟨-, -, rest⟩ := life_of_run {} (oneQueued ++ [.stop 0])
  obtain ⟨-, -, -, integration, -, handed, -⟩ := rest rfl tooLate
  exact ⟨⟨rfl, (ready rfl).1⟩, leads (.stop 0) _ _ rfl, rfl, rfl, integration, handed⟩

end System

end Targeting.Platform.Outbox
