import Targeting.Proofs.Client.System

/-!
# A client and its parts in lockstep

A client keeps a status of its own and a copy of the configuration, and so do its parts: the outbox has
both, the segments have the configuration. Each call brings the copies up to date one after the other. Seen
from the outside they never differ: when calls give way only where they wait, the client and its outbox are
in the same state between any two turns, and everybody knows the same configuration. An outbox that is over
is the exception, as it does not take on a configuration any more.

For each place at which a call may stand, `Place.Allows` says which states go together there and
`Place.Knows` how far the configuration has come. A step leads from place to place (`At.step`), a call from
where it begins to where it gives way (`At.runFrom`), and a turn from one client in lockstep to the next
(`System.Settled.turn`).

## Main definitions

* `Client.At` — a client while a call stands at a place and nothing else happens
* `Client.InStep` — a client in lockstep with its parts
* `Client.System.Settled` — in addition, every call has returned or waits

## Main results

* `Client.At.step` — a step leaves the client as its next place demands
* `Client.At.exists_pause` — a call goes on until it may give way
* `Client.runFrom_update` — what a call that configures returns
* `Client.System.lockstep_of_turns` — after any turns a client is in lockstep with its parts
-/

namespace Targeting.Platform.Client

variable {c c' : Client} {n m : Nat} {place place' : Place} {reports : List Report}

/-! ### Places in a call -/

/-- The parts know the configuration of the client, as far as it matters: an outbox that is over does not
take a configuration on any more. -/
def Agrees (c : Client) : Prop :=
  c.integration = c.segments.segments.integration ∧
    (c.outbox.outbox.status.state.isOver = false → c.integration = c.outbox.outbox.integration)

namespace Place

/-- Whether a call at a place holds the lock. -/
def holdsLock : Place → Bool
  | startCheck _ | startMark _ | startOutbox _ | startFail _ | startRun => true
  | updateSegments _ | updateOutbox _ | updateCheck | updateRun | leave _ => true
  | _ => false

/-- How far the parts know the configuration when a call stands at a place. -/
def Knows (c : Client) : Place → Prop
  | updateSegments integration => c.integration = some integration
  | updateOutbox integration =>
    c.integration = some integration ∧ c.segments.segments.integration = some integration
  | _ => c.Agrees

/-- How the states of the client and of its outbox go together when a call stands at a place, and whether
the call waits for deliveries. -/
def Allows (waits : Bool) (state outbox : State) : Place → Prop
  | startMark _ => state = .new ∧ outbox = .new
  | startOutbox _ => state = .starting ∧ outbox = .new
  | startFail _ => outbox = .failed
  | startRun => outbox = .running
  | stop => waits = false ∧ state = outbox
  | stopNew => waits = false ∧ outbox = .new
  | stopMark => waits = false ∧ (outbox = .starting ∨ outbox = .running)
  | stopOutbox false => waits = false ∧ state = .terminated ∧ outbox = .new
  | stopOutbox true => waits = false ∧ state = .stopping ∧ (outbox = .starting ∨ outbox = .running)
  | stopWait false => waits = false ∧ state = outbox
  | stopWait true => if waits then state = outbox else outbox = .terminated
  | stopEnd => outbox = .terminated
  | updateCheck => state = outbox ∧ state ≠ .starting ∨ state = .starting ∧ outbox = .running
  | updateRun => outbox = .running
  | _ => state = outbox

end Place

/-- A call stands at a place, and nothing else happens in between. -/
structure At (c : Client) (n : Nat) (place : Place) : Prop where
  states : place.Allows (c.outbox.isWaiting n) c.status.state c.outbox.outbox.status.state
  knows : place.Knows c
  locked : c.isLocked = place.holdsLock
  ordered : c.outbox.Ordered
  stops : ∀ caller ∈ c.outbox.callers, caller.2.purpose = .stop

/-- Nothing that the outbox does changes what the others know. -/
theorem Agrees.withOutbox (h : c.Agrees) {label : Outbox.System.Label}
    (knows : (c.withOutbox label).1.outbox.outbox.status.state.isOver = false →
      c.integration = (c.withOutbox label).1.outbox.outbox.integration) :
    (c.withOutbox label).1.Agrees := by
  rw [Agrees, withOutbox_integration, withOutbox_segments]
  exact ⟨h.1, knows⟩

section Outbox

/-- Starting a new outbox makes it run, or wait for a configuration, or fail. -/
theorem withOutbox_start_of_new (new : c.outbox.outbox.status.state = .new) (inRuntime : Bool) :
    let started := (c.withOutbox (.start inRuntime)).1
    started.outbox.outbox.integration = c.outbox.outbox.integration ∧
      (inRuntime = true →
        started.outbox.outbox.status.state =
            (if c.outbox.outbox.integration.isSome then .running else .starting) ∧
          started.afterOutbox (c.withOutbox (.start inRuntime)).2 =
            if c.integration.isSome then .startRun else .leave (.started (.ok ()))) ∧
      (inRuntime = false → started.outbox.outbox.status.state = .failed ∧
        started.afterOutbox (c.withOutbox (.start inRuntime)).2 = .startFail .noRuntime) := by
  cases inRuntime <;>
    simp [withOutbox, Outbox.System.next?, Outbox.start, Outbox.System.applied,
      Outbox.System.absorb, new, afterOutbox]

theorem withOutbox_update (integration : Integration) :
    let told := (c.withOutbox (.update integration)).1
    told.outbox.outbox.integration =
        (if c.outbox.outbox.status.state.isOver then c.outbox.outbox.integration
        else some integration) ∧
      told.outbox.outbox.status.state =
        if c.outbox.outbox.status.state = .starting then .running else c.outbox.outbox.status.state := by
  simp [withOutbox, Outbox.System.next?, Outbox.update_integration, Outbox.update_state]

/-- Stopping a new outbox ends it, and nobody has to wait. -/
theorem withOutbox_stop_of_new (free : c.outbox.isWaiting n = false)
    (new : c.outbox.outbox.status.state = .new) :
    let stopped := (c.withOutbox (.stop n)).1
    stopped.outbox.outbox.status.state = .terminated ∧ stopped.outbox.isWaiting n = false := by
  simp only [withOutbox, Outbox.System.next?, free, Outbox.beginStop, new, Bool.false_eq_true, if_false]
  exact ⟨rfl, free⟩

/-- Stopping an outbox that is starting or runs makes the caller wait. -/
theorem withOutbox_stop_of_active (free : c.outbox.isWaiting n = false)
    (active : c.outbox.outbox.status.state = .starting ∨ c.outbox.outbox.status.state = .running) :
    let stopped := (c.withOutbox (.stop n)).1
    stopped.outbox.outbox.status.state = .stopping ∧ stopped.outbox.isWaiting n = true := by
  have begun : ∃ waiting o effects,
      c.outbox.outbox.beginStop c.outbox.isFinished = (some waiting, o, effects) ∧
        o.status.state = .stopping := by
    unfold Outbox.beginStop
    rcases active with state | state <;> rw [state] <;>
      exact ⟨_, _, _, rfl, congrArg Status.state (Outbox.beginFlush_status ..)⟩
  obtain ⟨waiting, o, effects, begun, stopping⟩ := begun
  simp only [withOutbox, Outbox.System.next?, free, begun, Bool.false_eq_true, if_false]
  refine ⟨by simpa using stopping, ?_⟩
  rw [Outbox.System.isWaiting, Outbox.System.lookup_withCaller_self, Option.isSome_some]
  simpa [Outbox.System.isWaiting] using free

end Outbox

/-- What every step of a call keeps still holds after some steps. -/
theorem runFrom_induction {motive : Place → Client → Prop}
    (step : ∀ place c place' c' reports, motive place c →
      c.step? n place = some (place', c', reports) → motive place' c')
    (steps : Nat) (start : motive place c) :
    motive (runFrom n steps place c).1 (runFrom n steps place c).2.1 := by
  induction steps generalizing c place with
  | zero => exact start
  | succ steps ih =>
    cases next : c.step? n place with
    | none => simpa [runFrom, next] using start
    | some after =>
      obtain ⟨place', c', reports⟩ := after
      simpa [runFrom, next] using ih (step _ _ _ _ _ start next)

namespace At

theorem of_withOutbox {label : Outbox.System.Label} (h : c.At n place) (own : label.IsOf n)
    (states : place'.Allows ((c.withOutbox label).1.outbox.isWaiting n) c.status.state
      (c.withOutbox label).1.outbox.outbox.status.state)
    (knows : place'.Knows (c.withOutbox label).1) (locks : place'.holdsLock = place.holdsLock) :
    (c.withOutbox label).1.At n place' where
  states := by rwa [withOutbox_status]
  knows := knows
  locked := by rw [withOutbox_isLocked, h.locked, locks]
  ordered := (evolves_withOutbox c own).ordered h.ordered
  stops := (evolves_withOutbox c own).stops h.stops

theorem startOutbox {inRuntime : Bool} (h : c.At n (.startOutbox inRuntime)) :
    let (started, reports) := c.withOutbox (.start inRuntime)
    started.At n (started.afterOutbox reports) := by
  obtain ⟨starting, new⟩ := h.states
  obtain ⟨kept, inside, outside⟩ := withOutbox_start_of_new new inRuntime
  have agreed : c.integration = c.outbox.outbox.integration := h.knows.2 (by rw [new]; rfl)
  have known : (c.withOutbox (.start inRuntime)).1.Agrees :=
    h.knows.withOutbox fun _ => agreed.trans kept.symm
  cases inRuntime with
  | false =>
    obtain ⟨failed, next⟩ := outside rfl
    dsimp only
    rw [next]
    exact h.of_withOutbox trivial failed known rfl
  | true =>
    obtain ⟨state, next⟩ := inside rfl
    dsimp only
    rw [next]
    rw [← agreed] at state
    split
    · next configured =>
      rw [if_pos configured] at state
      exact h.of_withOutbox trivial state known rfl
    · next unconfigured =>
      rw [if_neg unconfigured] at state
      exact h.of_withOutbox trivial (starting.trans state.symm) known rfl

theorem stopOutbox {wasStarted : Bool} (h : c.At n (.stopOutbox wasStarted)) :
    (c.withOutbox (.stop n)).1.At n (.stopWait wasStarted) := by
  have states := h.states
  cases wasStarted with
  | false =>
    obtain ⟨free, terminated, new⟩ := h.states
    obtain ⟨ended, unwaiting⟩ := withOutbox_stop_of_new free new
    have known : (c.withOutbox (.stop n)).1.Agrees :=
      h.knows.withOutbox fun running => by rw [ended] at running; cases running
    exact h.of_withOutbox rfl ⟨unwaiting, terminated.trans ended.symm⟩ known rfl
  | true =>
    obtain ⟨free, stopping, active⟩ := h.states
    obtain ⟨halted, waiting⟩ := withOutbox_stop_of_active free active
    have known : (c.withOutbox (.stop n)).1.Agrees :=
      h.knows.withOutbox fun running => by rw [halted] at running; cases running
    refine h.of_withOutbox rfl ?_ known rfl
    rw [waiting]
    exact stopping.trans halted.symm

theorem updateOutbox {integration : Integration} (h : c.At n (.updateOutbox integration)) :
    (c.withOutbox (.update integration)).1.At n .updateCheck := by
  obtain ⟨configured, told⟩ := h.knows
  obtain ⟨outbox, state⟩ := withOutbox_update (c := c) integration
  have same : c.status.state = c.outbox.outbox.status.state := h.states
  refine h.of_withOutbox trivial ?_ ⟨?_, fun running => ?_⟩ rfl
  · rw [state]
    split
    · next starting => exact .inr ⟨same.trans starting, rfl⟩
    · next other => exact .inl ⟨same, fun starting => other (same.symm.trans starting)⟩
  · rw [withOutbox_integration, withOutbox_segments]
    exact configured.trans told.symm
  · -- An outbox that is over after this was over before.
    rw [withOutbox_integration, outbox, configured]
    split
    · next ended =>
      rw [state] at running
      split at running
      · next starting =>
        rw [starting] at ended
        cases ended
      · rw [ended] at running
        cases running
    · rfl

/-- A call to stop that waits goes on to the next delivery, or it finds the outbox ended. -/
theorem resume {outbox : Outbox.System} {said : List Outbox.System.Report}
    (h : c.At n (.stopWait true)) (waits : c.outbox.isWaiting n = true)
    (step : c.outbox.Moves (.resume n) outbox said) :
    { c with outbox }.At n (.stopWait true) := by
  have states : c.status.state = c.outbox.outbox.status.state := by
    have := h.states
    rwa [Place.Allows, waits] at this
  have evolves : Evolves n c.outbox outbox := .inr ⟨.resume n, said, rfl, step⟩
  have ordered := evolves.ordered h.ordered
  have stops := evolves.stops h.stops
  cases step with
  | look found waiting known gone =>
    refine ⟨?_, h.knows, h.locked, ordered, stops⟩
    rw [Place.Allows, Outbox.System.isWaiting, Outbox.System.lookup_replace_self waits]
    exact states
  | flushed found waiting purpose =>
    cases purpose.symm.trans (h.stops _ (Outbox.System.mem_of_lookup found))
  | ended found waiting purpose =>
    have gone : (Outbox.System.without c.outbox.callers n).lookup n = none := by
      refine List.lookup_eq_none_iff.mpr fun entry member => ?_
      rw [bne_comm]
      exact (List.mem_filter.mp member).2
    refine ⟨?_, ⟨h.knows.1, fun running => ?_⟩, h.locked, ordered, stops⟩
    · rw [Place.Allows, Outbox.System.isWaiting, gone]
      rfl
    · cases running

theorem step (h : c.At n place) (next : c.step? n place = some (place', c', reports)) :
    c'.At n place' := by
  have ordered := (evolves_of_step? next).ordered h.ordered
  have stops := (evolves_of_step? next).stops h.stops
  obtain ⟨states, knows, locked, -, -⟩ := id h
  cases place with
  | start inRuntime =>
    obtain ⟨d, taken, next⟩ := Option.map_eq_some_iff.mp next
    cases next
    obtain ⟨-, rfl⟩ := exists_of_lock? taken
    exact ⟨states, knows, rfl, ordered, stops⟩
  | startCheck inRuntime =>
    simp only [step?] at next
    split at next
    · next new =>
      cases next
      exact ⟨⟨new, states.symm.trans new⟩, knows, locked, ordered, stops⟩
    · cases next
      exact ⟨states, knows, locked, ordered, stops⟩
  | startMark inRuntime =>
    cases next
    exact ⟨⟨rfl, states.2⟩, knows, locked, ordered, stops⟩
  | startOutbox inRuntime =>
    simp only [step?, Option.some.injEq, Prod.mk.injEq] at next
    obtain ⟨rfl, rfl, -⟩ := next
    exact h.startOutbox
  | startFail failure =>
    cases next
    exact ⟨states.symm, knows, locked, ordered, stops⟩
  | startRun =>
    cases next
    exact ⟨states.symm, knows, locked, ordered, stops⟩
  | stop =>
    simp only [step?] at next
    split at next
    · next new =>
      cases next
      exact ⟨⟨states.1, states.2.symm.trans new⟩, knows, locked, ordered, stops⟩
    · next starting =>
      cases next
      exact ⟨⟨states.1, .inl (states.2.symm.trans starting)⟩, knows, locked, ordered, stops⟩
    · next running =>
      cases next
      exact ⟨⟨states.1, .inr (states.2.symm.trans running)⟩, knows, locked, ordered, stops⟩
    · cases next
      exact ⟨states.2, knows, locked, ordered, stops⟩
  | stopNew =>
    cases next
    exact ⟨⟨states.1, rfl, states.2⟩, knows, locked, ordered, stops⟩
  | stopMark =>
    cases next
    exact ⟨⟨states.1, rfl, states.2⟩, knows, locked, ordered, stops⟩
  | stopOutbox wasStarted =>
    simp only [step?, Option.some.injEq, Prod.mk.injEq] at next
    obtain ⟨rfl, rfl, -⟩ := next
    exact h.stopOutbox
  | stopWait wasStarted =>
    simp only [step?] at next
    split at next
    · next waits =>
      obtain ⟨⟨outbox, said⟩, step, next⟩ := Option.map_eq_some_iff.mp next
      cases next
      cases wasStarted with
      | false => cases states.1.symm.trans waits
      | true => exact h.resume waits (Outbox.System.moves_of_next? step)
    · next free =>
      cases next
      cases wasStarted with
      | false => exact ⟨states.2, knows, locked, ordered, stops⟩
      | true =>
        have unwaiting : c.outbox.isWaiting n = false := Bool.eq_false_iff.mpr free
        rw [Place.Allows, unwaiting] at states
        exact ⟨states, knows, locked, ordered, stops⟩
  | stopEnd =>
    cases next
    exact ⟨states.symm, knows, locked, ordered, stops⟩
  | update integration =>
    obtain ⟨d, taken, next⟩ := Option.map_eq_some_iff.mp next
    obtain ⟨-, rfl⟩ := exists_of_lock? taken
    split at next
    · cases next
      exact ⟨states, knows, rfl, ordered, stops⟩
    · cases next
      exact ⟨states, rfl, rfl, ordered, stops⟩
  | updateSegments integration =>
    cases next
    exact ⟨states, ⟨knows, rfl⟩, locked, ordered, stops⟩
  | updateOutbox integration =>
    simp only [step?, Option.some.injEq, Prod.mk.injEq] at next
    obtain ⟨rfl, rfl, -⟩ := next
    exact h.updateOutbox
  | updateCheck =>
    simp only [step?, Option.some.injEq, Prod.mk.injEq] at next
    obtain ⟨rfl, rfl, -⟩ := next
    rcases states with ⟨same, other⟩ | ⟨starting, running⟩
    · rw [if_neg other]
      exact ⟨same, knows, locked, ordered, stops⟩
    · rw [if_pos starting]
      exact ⟨running, knows, locked, ordered, stops⟩
  | updateRun =>
    cases next
    exact ⟨states.symm, knows, locked, ordered, stops⟩
  | leave answer =>
    cases next
    exact ⟨states, knows, rfl, ordered, stops⟩
  | done answer => cases next

theorem runFrom (h : c.At n place) (steps : Nat) :
    let (place, c, _) := runFrom n steps place c
    c.At n place :=
  runFrom_induction (motive := fun place c => c.At n place)
    (fun _ _ _ _ _ => At.step) steps h

/-- A call that may give way has returned, or it is one to stop that waits. -/
theorem paused (h : c.At n place) (pauses : c.mayPause n place = true) :
    (∃ answer, place = .done answer) ∨ place = .stopWait true ∧ c.outbox.isWaiting n = true := by
  cases place with
  | done answer => exact .inl ⟨answer, rfl⟩
  | stopWait wasStarted =>
    cases wasStarted with
    | false => cases h.states.1.symm.trans pauses
    | true => exact .inr ⟨rfl, pauses⟩
  | _ => cases pauses

end At

/-- Whether another call waits does not change. -/
theorem isWaiting_runFrom_of_ne (other : m ≠ n) (steps : Nat) (place : Place) (c : Client) :
    (runFrom n steps place c).2.1.outbox.isWaiting m = c.outbox.isWaiting m :=
  runFrom_induction (motive := fun _ d => d.outbox.isWaiting m = c.outbox.isWaiting m)
    (fun _ _ _ _ _ same next => ((evolves_of_step? next).isWaiting_of_ne other).trans same) steps rfl

/-! ### Turns -/

/-- A client in lockstep with its parts, when no call is about to make a step. -/
structure InStep (c : Client) : Prop where
  states : c.status.state = c.outbox.outbox.status.state
  agrees : c.Agrees
  unlocked : c.isLocked = false
  ordered : c.outbox.Ordered
  stops : ∀ caller ∈ c.outbox.callers, caller.2.purpose = .stop

namespace InStep

theorem fresh (settings : OutboxSettings) (cache : Cache String (List String)) :
    (fresh settings cache).InStep :=
  ⟨rfl, ⟨rfl, fun _ => rfl⟩, rfl, .initial settings, List.forall_mem_nil _⟩

theorem at_call (h : c.InStep) (free : c.outbox.isWaiting n = false) (call : Call) :
    c.At n call.place := by
  cases call with
  | stop => exact ⟨⟨free, h.states⟩, h.agrees, h.unlocked, h.ordered, h.stops⟩
  | _ => exact ⟨h.states, h.agrees, h.unlocked, h.ordered, h.stops⟩

theorem at_stopWait (h : c.InStep) (waits : c.outbox.isWaiting n = true) :
    c.At n (.stopWait true) := by
  refine ⟨?_, h.agrees, h.unlocked, h.ordered, h.stops⟩
  rw [Place.Allows, waits]
  exact h.states

theorem at_done (h : c.InStep) (answer : Answer) : c.At n (.done answer) :=
  ⟨h.states, h.agrees, h.unlocked, h.ordered, h.stops⟩

theorem of_at (h : c.At n place) (pauses : c.mayPause n place = true) : c.InStep := by
  obtain ⟨states, knows, locked, ordered, stops⟩ := id h
  obtain ⟨answer, rfl⟩ | ⟨rfl, waits⟩ := h.paused pauses
  · exact ⟨states, knows, locked, ordered, stops⟩
  · rw [Place.Allows, waits] at states
    exact ⟨states, knows, locked, ordered, stops⟩

theorem meet (h : c.InStep) (incident : Incident) : (c.meet incident).1.InStep := by
  have evolves := evolves_meet c incident 0
  obtain ⟨status, integration, isLocked, segments, state, outbox⟩ := undisturbed_meet c incident
  refine ⟨?_, ⟨?_, fun running => ?_⟩, isLocked.trans h.unlocked, evolves.ordered h.ordered,
    evolves.stops h.stops⟩
  · rw [status, state, h.states]
  · rw [integration, segments, h.agrees.1]
  · rw [integration, outbox, h.agrees.2 (by rwa [← state])]

end InStep

namespace System

variable {s t : System}

@[simp] theorem lookup_moved_self (s : System) (n : Nat) (place : Place) (c : Client) :
    (s.moved n place c).calls.lookup n = some place :=
  List.lookup_cons_self

theorem lookup_moved_of_ne (other : m ≠ n) (s : System) (place : Place) (c : Client) :
    (s.moved n place c).calls.lookup m = s.calls.lookup m := by
  rw [moved, List.lookup_cons, beq_eq_false_iff_ne.mpr other]
  exact Outbox.System.lookup_without_of_ne other

/-- The client is in lockstep with its parts, and every call has returned or is known to the outbox as one
that waits. -/
structure Settled (s : System) : Prop where
  inStep : s.client.InStep
  paused : ∀ n place, s.calls.lookup n = some place →
    (∃ answer, place = .done answer) ∨ place = .stopWait true ∧ s.client.outbox.isWaiting n = true
  known : ∀ n, s.client.outbox.isWaiting n = true → (s.calls.lookup n).isSome = true

namespace Settled

theorem fresh (settings : OutboxSettings) (cache : Cache String (List String)) :
    Settled { client := .fresh settings cache } where
  inStep := .fresh settings cache
  paused _ _ found := by cases found
  known _ waits := by cases waits

theorem take (h : s.Settled) {steps : Nat} (start : s.client.At n place)
    (taken : s.take? n place steps = some (t, reports)) : t.Settled := by
  have reached := start.runFrom steps
  simp only [take?] at taken
  split at taken
  · next pauses =>
    cases taken
    refine ⟨.of_at reached pauses, fun m place' found => ?_, fun m waits => ?_⟩
    · by_cases same : m = n
      · rw [same, lookup_moved_self] at found
        cases found
        rw [same]
        exact reached.paused pauses
      · rw [lookup_moved_of_ne same] at found
        refine (h.paused m place' found).imp_right fun ⟨stops, waits⟩ => ⟨stops, ?_⟩
        exact (isWaiting_runFrom_of_ne same steps place s.client).trans waits
    · by_cases same : m = n
      · rw [same, lookup_moved_self, Option.isSome_some]
      · rw [lookup_moved_of_ne same]
        exact h.known m (by rwa [← isWaiting_runFrom_of_ne same steps place])
  · cases taken

theorem isWaiting_of_lookup (h : s.Settled) (unused : s.calls.lookup n = none) :
    s.client.outbox.isWaiting n = false := by
  refine Bool.eq_false_iff.mpr fun waits => ?_
  have := h.known n waits
  rw [unused] at this
  cases this

theorem meet (h : s.Settled) (incident : Incident) : (s.meet incident).1.Settled := by
  have waiting (m : Nat) : (s.client.meet incident).1.outbox.isWaiting m =
      s.client.outbox.isWaiting m :=
    (evolves_meet s.client incident (m + 1)).isWaiting_of_ne (Nat.ne_of_lt m.lt_succ_self)
  refine ⟨h.inStep.meet incident, fun m place found => ?_, fun m waits => ?_⟩
  · exact (h.paused m place found).imp_right fun ⟨stops, waits⟩ => ⟨stops, (waiting m).trans waits⟩
  · exact h.known m ((waiting m).symm.trans waits)

/-- A turn leaves the client in lockstep with its parts. -/
theorem turn (h : s.Settled) {choice : Turn} (step : s.turn? choice = some (t, reports)) :
    t.Settled := by
  cases choice with
  | call n call steps =>
    simp only [turn?] at step
    split at step
    · cases step
    · next unused =>
      have free := h.isWaiting_of_lookup (Option.not_isSome_iff_eq_none.mp unused)
      exact h.take (h.inStep.at_call free call) step
  | goOn n steps =>
    obtain ⟨place, found, step⟩ := Option.bind_eq_some_iff.mp step
    obtain ⟨answer, rfl⟩ | ⟨rfl, waits⟩ := h.paused n place found
    · exact h.take (h.inStep.at_done answer) step
    · exact h.take (h.inStep.at_stopWait waits) step
  | incident incident =>
    cases step
    exact h.meet incident

end Settled

end System

/-! ### Calls that go on

A call that may not give way can make a step, and each step brings it nearer to its end. -/

namespace Place

/-- How many steps are left at most when a call stands at a place. -/
def left : Place → Nat
  | start _ => 6
  | startCheck _ => 5
  | startMark _ => 4
  | startOutbox _ => 3
  | startFail _ => 2
  | startRun => 2
  | stop => 5
  | stopNew => 4
  | stopMark => 4
  | stopOutbox _ => 3
  | stopWait _ => 2
  | stopEnd => 1
  | update _ => 6
  | updateSegments _ => 5
  | updateOutbox _ => 4
  | updateCheck => 3
  | updateRun => 2
  | leave _ => 1
  | done _ => 0

end Place

theorem left_afterOutbox (c : Client) (reports : List Report) : (c.afterOutbox reports).left ≤ 2 := by
  unfold afterOutbox
  dsimp only
  split
  · exact Nat.le_refl 2
  · split <;> simp [Place.left]

section Steps

variable {integration : Integration}

theorem step?_start (free : c.isLocked = false) (inRuntime : Bool) :
    c.step? n (.start inRuntime) = some (.startCheck inRuntime, { c with isLocked := true }, []) := by
  simp [step?, lock?, free]

theorem step?_update_of_same (free : c.isLocked = false) (same : c.integration = some integration) :
    c.step? n (.update integration) =
      some (.leave (.updated false), { c with isLocked := true }, []) := by
  simp [step?, lock?, free, same]

theorem step?_update_of_other (free : c.isLocked = false)
    (other : c.integration ≠ some integration) :
    c.step? n (.update integration) = some (.updateSegments integration,
      { c with isLocked := true, integration := some integration }, []) := by
  simp [step?, lock?, free, other]

theorem step?_leave (answer : Answer) :
    c.step? n (.leave answer) = some (.done answer, { c with isLocked := false }, []) := rfl

theorem step?_stopWait_of_free (free : c.outbox.isWaiting n = false) (wasStarted : Bool) :
    c.step? n (.stopWait wasStarted) =
      some (if wasStarted then .stopEnd else .done .stopped, c, []) := by
  have unknown : (c.outbox.callers.lookup n).isSome = false := free
  rw [step?, unknown]
  rfl

end Steps

theorem At.exists_step? (h : c.At n place) (moving : c.mayPause n place = false) :
    ∃ place' c' reports, c.step? n place = some (place', c', reports) ∧ place'.left < place.left := by
  cases place with
  | done => cases moving
  | start inRuntime => exact ⟨_, _, _, step?_start h.locked inRuntime, by simp [Place.left]⟩
  | update integration =>
    by_cases same : c.integration = some integration
    · exact ⟨_, _, _, step?_update_of_same h.locked same, by simp [Place.left]⟩
    · exact ⟨_, _, _, step?_update_of_other h.locked same, by simp [Place.left]⟩
  | startOutbox => exact ⟨_, _, _, rfl, Nat.lt_succ_of_le (left_afterOutbox _ _)⟩
  | stopWait wasStarted =>
    refine ⟨_, _, _, step?_stopWait_of_free moving wasStarted, ?_⟩
    cases wasStarted <;> simp [Place.left]
  | startCheck | stop =>
    simp only [step?]
    split <;> exact ⟨_, _, _, rfl, by simp [Place.left]⟩
  | updateCheck =>
    refine ⟨_, _, _, rfl, ?_⟩
    split <;> simp [Place.left]
  | _ => exact ⟨_, _, _, rfl, by simp [Place.left]⟩

/-- Some steps bring a call to a place where it may give way. -/
theorem At.exists_pause (h : c.At n place) : ∃ steps,
    (Client.runFrom n steps place c).2.1.mayPause n (Client.runFrom n steps place c).1 = true := by
  induction left : place.left using Nat.strongRecOn generalizing c place with
  | ind k ih =>
    cases moving : c.mayPause n place with
    | true => exact ⟨0, moving⟩
    | false =>
      obtain ⟨place', c', reports, next, less⟩ := h.exists_step? moving
      obtain ⟨steps, pauses⟩ := ih place'.left (left ▸ less) (h.step next) rfl
      exact ⟨steps + 1, by simpa [Client.runFrom, next] using pauses⟩

/-! ### Configurations -/

namespace Place

/-- What a call that configures is going to return, as soon as that is settled. -/
def isNew? : Place → Option Bool
  | updateSegments _ | updateOutbox _ | updateCheck | updateRun => some true
  | leave (.updated isNew) => some isNew
  | done (.updated isNew) => some isNew
  | _ => none

end Place

theorem isNew?_of_step? {isNew : Bool} (settled : place.isNew? = some isNew)
    (next : c.step? n place = some (place', c', reports)) : place'.isNew? = some isNew := by
  cases place with
  | updateCheck =>
    cases next
    split <;> exact settled
  | leave answer =>
    cases next
    cases answer <;> exact settled
  | done => cases next
  | updateSegments | updateOutbox | updateRun =>
    cases next
    exact settled
  | _ => cases settled

theorem isNew?_runFrom {isNew : Bool} (settled : place.isNew? = some isNew) (steps : Nat) :
    (runFrom n steps place c).1.isNew? = some isNew :=
  runFrom_induction (motive := fun place _ => place.isNew? = some isNew)
    (fun _ _ _ _ _ => isNew?_of_step?) steps settled

theorem eq_done_of_mayPause {isNew : Bool} (settled : place.isNew? = some isNew)
    (pauses : c.mayPause n place = true) : place = .done (.updated isNew) := by
  cases place with
  | done answer =>
    cases answer with
    | updated isNew' =>
      cases settled
      rfl
    | _ => cases settled
  | stopWait => cases settled
  | _ => cases pauses

theorem runFrom_done (answer : Answer) (steps : Nat) (c : Client) :
    runFrom n steps (.done answer) c = (.done answer, c, []) := by
  cases steps <;> rfl

/-- A call that configures returns, and it says whether the configuration is another one than before. If it
is not, the call does nothing at all. -/
theorem runFrom_update {integration : Integration} (free : c.isLocked = false) {steps : Nat}
    (pauses : (runFrom n steps (.update integration) c).2.1.mayPause n
      (runFrom n steps (.update integration) c).1 = true) :
    ∃ isNew, (runFrom n steps (.update integration) c).1 = .done (.updated isNew) ∧
      (isNew = false ↔ c.integration = some integration) ∧
      (isNew = false → (runFrom n steps (.update integration) c).2 = (c, [])) := by
  cases steps with
  | zero => cases pauses
  | succ steps =>
    by_cases same : c.integration = some integration
    · have first := step?_update_of_same (n := n) free same
      cases steps with
      | zero => simp [runFrom, first, mayPause] at pauses
      | succ steps =>
        have whole : runFrom n (steps + 1 + 1) (.update integration) c =
            (.done (.updated false), { c with isLocked := false }, []) := by
          simp [runFrom, first, step?_leave, runFrom_done]
        have unlocked : { c with isLocked := false } = c := by rw [← free]
        rw [whole, unlocked]
        exact ⟨false, rfl, by simp [same], fun _ => rfl⟩
    · have first := step?_update_of_other (n := n) free same
      refine ⟨true, ?_, ?_, ?_⟩
      · simp only [runFrom, first] at pauses ⊢
        exact eq_done_of_mayPause (isNew?_runFrom rfl steps) pauses
      · simp [same]
      · exact fun old => absurd old (by simp)

namespace System

/-- When calls give way only where they wait, a client goes in lockstep with its parts, whatever calls come
in and in whatever order: its state is that of the outbox, and its configuration that of the segments, and
that of the outbox unless this is over. A call can always come in, and goes on until it returns or waits. A
call that configures returns, and says whether the configuration is another one than before; if it is not,
nothing at all changes. -/
theorem lockstep_of_turns (settings : OutboxSettings) (cache : Cache String (List String))
    (turns : List Turn) :
    let s := Run.final turn? { client := .fresh settings cache } turns
    s.client.status.state = s.client.outbox.outbox.status.state ∧
    s.client.integration = s.client.segments.segments.integration ∧
    (s.client.outbox.outbox.status.state.isOver = false →
      s.client.integration = s.client.outbox.outbox.integration) ∧
    (∀ n call, s.calls.lookup n = none → ∃ steps, (s.turn? (.call n call steps)).isSome = true) ∧
    ∀ n integration steps t reports, s.turn? (.call n (.update integration) steps) = some (t, reports) →
      ∃ isNew, t.calls.lookup n = some (.done (.updated isNew)) ∧
        (isNew = false ↔ s.client.integration = some integration) ∧
        (isNew = false → t.client = s.client ∧ reports = []) := by
  intro s
  have settled : s.Settled :=
    Run.final_induction (.fresh settings cache) (fun _ _ _ _ h step => h.turn step) turns
  refine ⟨settled.inStep.states, settled.inStep.agrees.1, settled.inStep.agrees.2, ?_, ?_⟩
  · intro n call unused
    have start := settled.inStep.at_call (settled.isWaiting_of_lookup unused) call
    obtain ⟨steps, pauses⟩ := start.exists_pause
    refine ⟨steps, ?_⟩
    rw [turn?, unused, take?]
    simp [pauses]
  · intro n integration steps t reports step
    simp only [turn?] at step
    split at step
    · cases step
    · simp only [take?] at step
      split at step
      · next pauses =>
        obtain ⟨isNew, returned, iff, idle⟩ := runFrom_update settled.inStep.unlocked pauses
        cases step
        refine ⟨isNew, ?_, iff, fun old => ?_⟩
        · rw [lookup_moved_self]
          exact congrArg some returned
        · exact Prod.mk.inj (idle old)
      · cases step

/-- A client is started and gets a configuration, which makes it run. Then it gets the same again. -/
theorem lockstep_of_turns_same_again :
    let turns : List Turn := [.call 0 (.start true) 5, .call 1 (.update .notIntegrated) 6]
    let s := Run.final turn? { client := .fresh {} { capacity := 10, timeout := none } } turns
    s.client.status.state = .running ∧ s.client.outbox.outbox.status.state.isOver = false ∧
      s.client.integration = s.client.outbox.outbox.integration ∧
      s.calls.lookup 2 = none ∧ (∃ steps, (s.turn? (.call 2 .stop steps)).isSome = true) ∧
      ∃ t, s.turn? (.call 2 (.update .notIntegrated) 2) = some (t, []) ∧ t.client = s.client := by
  intro turns s
  obtain ⟨-, -, known, comesIn, configures⟩ :=
    lockstep_of_turns {} { capacity := 10, timeout := none } turns
  obtain ⟨isNew, -, iff, idle⟩ := configures 2 .notIntegrated 2 _ _ rfl
  exact ⟨rfl, rfl, known rfl, rfl, comesIn 2 .stop rfl, _, rfl, (idle (iff.mpr rfl)).1⟩

end System

end Targeting.Platform.Client
