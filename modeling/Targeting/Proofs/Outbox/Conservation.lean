import Targeting.Proofs.Outbox.Lifecycle
import Targeting.Proofs.Run

/-!
# No accepted event is lost in a run

The steps of the system keep the ledger of the outbox, and so does every run: each list of choices
is an order in which calls, timers and deliveries may come. The one thing to add is that a caller
that is about to end the outbox finds it stopping, since ending it would be no harmless step for a
running one.

## Main definitions

* `System.Ordered` — the system in good order
* `System.admitted?` — the entry that a step makes

## Main results

* `System.Ordered.settles` — a step of the system keeps the ledger
* `System.Ordered.leads` — a step of the system moves the status along an edge
* `System.settles_of_run` — every run keeps the ledger
* `System.ledger_of_run` — what was handed over, and what is queued, is what was accepted
-/

namespace Targeting.Platform.Outbox.System

variable {s t : System} {reports : List Report} {c : Label}

/-! ### Good order -/

/-- A system in good order: the outbox is, and a caller that is to end it finds it stopping. -/
structure Ordered (s : System) : Prop where
  ready : s.outbox.Ready
  halted : ∀ caller ∈ s.callers, caller.2.purpose = .stop → s.outbox.Halted

theorem Ordered.initial (settings : OutboxSettings) : Ordered { settings } :=
  ⟨.initial, List.forall_mem_nil _⟩

/-- A caller that is about to end the outbox was there before, or has just made it stop. -/
theorem Moves.stopping (step : s.Moves c t reports) :
    ∀ caller ∈ t.callers, caller.2.purpose = .stop →
      (∃ old ∈ s.callers, old.2.purpose = .stop) ∨ t.outbox.Halted := by
  intro caller hc stops
  cases step with
  | flush =>
    rw [withCaller_callers, applied_callers] at hc
    rcases List.mem_append.mp hc with hc | hc
    · exact .inl ⟨caller, hc, stops⟩
    · rw [List.mem_singleton.mp hc] at stops
      exact absurd stops (by simp)
  | stop free waits =>
    right
    rw [withCaller_outbox, applied_outbox]
    exact Halted.of_beginStop waits
  | look found =>
    rcases mem_replace hc with hc | rfl
    · exact .inl ⟨caller, hc, stops⟩
    · exact .inl ⟨_, mem_of_lookup found, stops⟩
  | flushed | ended => exact .inl ⟨caller, (List.mem_filter.mp hc).1, stops⟩
  | _ => exact .inl ⟨caller, by simpa using hc, stops⟩

/-- A step of a system in good order moves the status along an edge. -/
theorem Ordered.leads (h : s.Ordered) (step : s.Moves c t reports) :
    s.outbox.status.state.Leads t.outbox.status.state := by
  cases step with
  | start inRuntime =>
    rw [applied_outbox]
    exact leads_start s.outbox inRuntime
  | update integration =>
    rw [applied_outbox]
    exact leads_update s.isFinished s.outbox integration
  | send id event =>
    rw [applied_outbox, send_status]
    exact .refl _
  | flush =>
    rw [withCaller_outbox, applied_outbox, beginFlush_status]
    exact .refl _
  | stop =>
    rw [withCaller_outbox, applied_outbox]
    exact leads_beginStop s.isFinished s.outbox
  | stopped =>
    rw [applied_outbox]
    exact leads_beginStop s.isFinished s.outbox
  | ended found waiting purpose =>
    -- This is the one step that a running outbox would not survive in good order.
    exact leads_endStop (h.halted _ (mem_of_lookup found) purpose)
  | fire =>
    rw [applied_outbox, fire_status]
    exact .refl _
  | look | flushed | delayed | finished => exact .refl _

/-! ### The ledger -/

/-- The entry that an event makes when its choice is taken. -/
def admitted? (s : System) : Label → Option Entry
  | .send id event => s.outbox.admission? s.settings id event
  | _ => none

/-- The deliveries do not matter to the ledger once they are under way. -/
theorem isIdle_of_receive {d : Delivery} {draw : Duration} {outcome : Delivery.Outcome}
    {said : List Notice} {sequel : Delivery.Sequel}
    (received : d.receive draw outcome = (said, sequel)) :
    ∀ e ∈ said.map Effect.said, e.isIdle = true := by
  intro e he
  obtain ⟨notice, hn, rfl⟩ := List.mem_map.mp he
  have spoken : said = (d.receive draw outcome).1 := by rw [received]
  rw [spoken] at hn
  -- What is said is about the outcome of the attempt, or about giving up.
  have harmless : notice ∈ d.notices outcome ++ (d.retry draw).1 := by
    unfold Delivery.receive at hn
    split at hn
    · exact List.mem_append_left _ hn
    · exact hn
  rcases List.mem_append.mp harmless with hn | hn
  · cases outcome with
    | status code =>
      simp only [Delivery.notices] at hn
      split at hn <;> rw [List.mem_singleton.mp hn] <;> rfl
    | failed failure =>
      simp only [Delivery.notices] at hn
      split at hn <;> rw [List.mem_singleton.mp hn] <;> rfl
    | crashed => exact absurd hn List.not_mem_nil
  · unfold Delivery.retry at hn
    split at hn
    · rw [List.mem_singleton.mp hn]
      rfl
    · split at hn <;> exact absurd hn List.not_mem_nil

theorem isIdle_of_afterwards {progress : Progress} :
    ∀ e ∈ afterwards progress, e.isIdle = true := by
  unfold afterwards
  split
  · exact List.forall_mem_singleton.mpr rfl
  · exact List.forall_mem_nil _

/-- Every step of a system in good order keeps the ledger. -/
theorem Ordered.settles (h : s.Ordered) (step : s.Moves c t reports) :
    Settles s.outbox (s.admitted? c).toList (effectsOf reports) t.outbox := by
  cases step with
  | start inRuntime =>
    rw [effectsOf_append, effectsOf_map, applied_outbox]
    exact (h.ready.start inRuntime).append_idle (List.forall_mem_nil _)
  | update integration =>
    rw [effectsOf_map, applied_outbox]
    exact h.ready.update s.isFinished integration
  | send id event =>
    rw [effectsOf_map, applied_outbox]
    exact h.ready.send s.settings s.isFinished id event
  | flush =>
    rw [effectsOf_map, withCaller_outbox, applied_outbox]
    exact h.ready.beginFlush s.isFinished
  | stop =>
    rw [effectsOf_map, withCaller_outbox, applied_outbox]
    exact h.ready.beginStop s.isFinished
  | stopped =>
    rw [effectsOf_append, effectsOf_map, applied_outbox]
    exact (h.ready.beginStop s.isFinished).append_idle (List.forall_mem_nil _)
  | look =>
    rw [effectsOf_map]
    exact .of_idle h.ready rfl isIdle_of_afterwards
  | flushed => exact .refl h.ready
  | ended found waiting purpose =>
    exact h.ready.endStop (h.halted _ (mem_of_lookup found) purpose).ne_running
  | @fire generation =>
    rw [effectsOf_map, applied_outbox]
    exact h.ready.fire s.isFinished generation
  | delayed known received | finished known received =>
    rw [effectsOf_append, effectsOf_notices]
    have spoken : Settles s.outbox [] _ s.outbox :=
      .of_idle h.ready rfl (isIdle_of_receive received)
    exact spoken.append_idle (List.forall_mem_nil _)

theorem Ordered.next (h : s.Ordered) (step : s.Moves c t reports) : t.Ordered := by
  refine ⟨(h.settles step).ready, fun caller hc stops => ?_⟩
  rcases step.stopping caller hc stops with ⟨old, ho, stopped⟩ | halted
  · exact (h.halted old ho stopped).of_leads (h.leads step)
  · exact halted

/-! ### Runs -/

/-- The effects in a run, in order. -/
def effectsIn (run : List (Step System Label Report)) : List Effect :=
  run.flatMap fun step => effectsOf step.reports

/-- The entries that a run makes, in order: the events that are accepted, each in its queued form
and with the configuration at that moment. -/
def admittedIn (run : List (Step System Label Report)) : List Entry :=
  run.filterMap fun step => step.before.admitted? step.choice

/-- Every run keeps the ledger. -/
theorem settles_of_run (settings : OutboxSettings) (labels : List Label) :
    let run := Run.steps next? { settings } labels
    Settles {} (admittedIn run) (effectsIn run) (Run.final next? { settings } labels).outbox := by
  intro run
  suffices Ordered (Run.final next? { settings } labels) ∧
      Settles {} (admittedIn run) (effectsIn run) (Run.final next? { settings } labels).outbox from
    this.2
  -- Along the run good order is needed beside the ledger: without it no step could be settled.
  refine Run.induction (motive := fun past s =>
    s.Ordered ∧ Settles {} (admittedIn past) (effectsIn past) s.outbox) ?_ ?_ labels
  · exact ⟨.initial settings, .of_idle .initial rfl (List.forall_mem_nil _)⟩
  · rintro past s c t reports ⟨ordered, settled⟩ step
    have moves := moves_of_next? step
    refine ⟨ordered.next moves, ?_⟩
    have effects : effectsIn (past ++ [⟨s, c, t, reports⟩])
        = effectsIn past ++ effectsOf reports := by
      simp [effectsIn]
    have admitted : admittedIn (past ++ [⟨s, c, t, reports⟩])
        = admittedIn past ++ (s.admitted? c).toList := by
      cases h : s.admitted? c <;> simp [admittedIn, h]
    rw [effects, admitted]
    exact settled.trans (ordered.settles moves)

/-- Whatever happens and in whatever order: what was handed over in batches, followed by what is
queued, is what was accepted, event for event and each under the configuration of its acceptance. No
batch is empty, and nothing that is queued is ever dropped. -/
theorem ledger_of_run (settings : OutboxSettings) (labels : List Label) :
    let run := Run.steps next? { settings } labels
    let outbox := (Run.final next? { settings } labels).outbox
    shipped (effectsIn run) ++ outbox.entries = admittedIn run ∧
      acceptances (effectsIn run) = (admittedIn run).map Prod.fst ∧
      (∀ batch ∈ handovers (effectsIn run), batch.2.2 ≠ []) ∧
      ∀ e ∈ effectsIn run, e.isLoss = false := by
  intro run outbox
  have settles : Settles {} (admittedIn run) (effectsIn run) outbox := settles_of_run settings labels
  exact ⟨settles.balance, settles.accepted, settles.nonempty, settles.lossless⟩

end Targeting.Platform.Outbox.System
