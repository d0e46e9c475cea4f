import Targeting.Platform.Client
import Targeting.Proofs.Outbox.Conservation
import Targeting.Proofs.Segments.Transparency

/-!
# The client at work

Several calls of a client may be under way at the same time, while events come, segments are fetched and
deliveries go on. What happens next is chosen from outside.

There are two ways to share the client. *Threads* may take over from one another at any step, so that a
call makes one step at a time. *Tasks* give way only where they wait: a call goes on until it returns or
waits for deliveries, and nothing else happens in between. Of the calls only stopping ever waits.

Besides its calls, what happens to a client moves events and segments, but it leaves every status and every
configuration alone (`Undisturbed`). To the outbox, anything that happens is one of its own steps or nothing
(`Evolves`).

## Main definitions

* `Client.Call`, `Client.Incident` — the calls that come in, and what else happens to a client
* `Client.System` — the client with its calls
* `Client.System.next?` — the steps of threads
* `Client.mayPause`, `Client.System.turn?` — where a task may give way, and the turns of tasks
* `Client.Evolves`, `Client.Undisturbed` — what may change in the outbox, and what does not in the client

## Main results

* `Outbox.update_integration`, `Outbox.update_state` — what a configuration does to the outbox
* `Client.evolves_of_step?`, `Client.evolves_meet` — the outbox makes one of its own steps, or none
* `Client.undisturbed_meet` — what happens besides calls touches neither status nor configuration
-/

namespace Targeting.Platform

namespace Client

/-- A call that comes in. -/
inductive Call where
  | start (inRuntime : Bool)
  | update (integration : Integration)
  | stop

/-- The place at which a call begins. -/
def Call.place : Call → Place
  | start inRuntime => .start inRuntime
  | update integration => .update integration
  | stop => .stop

/-- What happens to a client besides these calls. -/
inductive Incident where
  /-- An event is sent. -/
  | send (id : String) (event : Event)
  /-- Segments are fetched. -/
  | fetch (n : Nat) (now : Duration) (userId : String) (options : Segments.FetchOptions)
  /-- The platform answers a fetch. -/
  | answer (n : Nat) (now : Duration) (result : Option (List String)) (said : List SegmentQuery.Notice)
  /-- A timer of the outbox fires. -/
  | fire (generation : Nat)
  /-- An attempt to deliver a batch has an outcome. -/
  | attempt (batch : Nat) (draw : Duration) (outcome : Delivery.Outcome)

/-- The client after an incident. -/
def meet (c : Client) : Incident → Client × List Report
  | .send id event => c.withOutbox (.send id event)
  | .fetch n now userId options => c.withSegments (.fetch n now (userKey userId) userId options)
  | .answer n now result said => c.withSegments (.answer n now result said)
  | .fire generation => c.withOutbox (.fire generation)
  | .attempt batch draw outcome => c.withOutbox (.attempt batch draw outcome)

/-- A client to which nothing has happened yet. -/
def fresh (settings : OutboxSettings) (cache : Cache String (List String)) : Client :=
  { segments := { segments := { cache } }, outbox := { settings } }

/-- Whether a task may give way: its call has returned, or it waits for deliveries. -/
def mayPause (c : Client) (n : Nat) : Place → Bool
  | .done _ => true
  | .stopWait _ => c.outbox.isWaiting n
  | _ => false

/-- The client with the places of its calls, by number. -/
structure System where
  client : Client
  calls : List (Nat × Place) := []

namespace System

variable (s : System)

/-- The system in which a call has come to a place. -/
def moved (n : Nat) (place : Place) (client : Client) : System :=
  { client, calls := (n, place) :: s.calls.filter (·.1 != n) }

/-- The system after an incident. -/
def meet (incident : Incident) : System × List Report :=
  let (client, reports) := s.client.meet incident
  ({ s with client }, reports)

/-! ### Threads -/

/-- What happens next when calls are made by threads. -/
inductive Label where
  /-- A call comes in under a number of its own. -/
  | call (n : Nat) (call : Call)
  /-- A call makes a step. -/
  | step (n : Nat)
  | incident (incident : Incident)

/-- The step of a choice, and what it lets the world know; none if the choice is not possible. -/
def next? : Label → Option (System × List Report)
  | .call n call =>
    if (s.calls.lookup n).isSome then none else some (s.moved n call.place s.client, [])
  | .step n => do
    let place ← s.calls.lookup n
    let (place, client, reports) ← s.client.step? n place
    some (s.moved n place client, reports)
  | .incident incident => some (s.meet incident)

/-! ### Tasks -/

/-- What happens next when calls are made by tasks. -/
inductive Turn where
  /-- A call comes in under a number of its own and makes some steps. -/
  | call (n : Nat) (call : Call) (steps : Nat)
  /-- A call goes on and makes some steps. -/
  | goOn (n : Nat) (steps : Nat)
  | incident (incident : Incident)

/-- A call makes some steps from a place; none if it may not give way after them. -/
def take? (n : Nat) (place : Place) (steps : Nat) : Option (System × List Report) :=
  let (place, client, reports) := runFrom n steps place s.client
  if client.mayPause n place then some (s.moved n place client, reports) else none

/-- The turn of a choice, and what it lets the world know; none if the choice is not possible. -/
def turn? : Turn → Option (System × List Report)
  | .call n call steps =>
    if (s.calls.lookup n).isSome then none else s.take? n call.place steps
  | .goOn n steps => do
    let place ← s.calls.lookup n
    s.take? n place steps
  | .incident incident => some (s.meet incident)

end System

end Client

/-! ### The configuration of the outbox -/

namespace Outbox

variable (settings : OutboxSettings) (finished : Nat → Bool) (o : Outbox)

@[simp] theorem arm_integration : o.arm.1.integration = o.integration := by
  unfold arm
  split <;> rfl

@[simp] theorem accept_integration (event : Event) :
    (o.accept settings finished event).1.integration = o.integration := by
  by_cases full : settings.fullBatch ≤ (o.queue ++ [event]).length
  · rw [accept_of_full full, flush_integration]
  · rw [accept_of_not_full full, arm_integration]

@[simp] theorem send_integration (id : String) (event : Event) :
    (o.send settings finished id event).1.integration = o.integration := by
  unfold send
  split
  · rfl
  · exact accept_integration ..

@[simp] theorem fire_integration (generation : Nat) :
    (o.fire finished generation).1.integration = o.integration := by
  unfold fire
  split
  · exact flush_integration ..
  · rfl

/-- A configuration is taken on unless the outbox is over. -/
theorem update_integration (integration : Integration) :
    (o.update finished integration).1.integration =
      if o.status.state.isOver then o.integration else some integration := by
  unfold update
  cases state : o.status.state with
  | running =>
    dsimp only
    split
    · next same => exact same
    · rfl
  | _ => rfl

/-- A configuration makes an outbox run that is starting. -/
theorem update_state (integration : Integration) :
    (o.update finished integration).1.status.state =
      if o.status.state = .starting then .running else o.status.state := by
  unfold update
  cases state : o.status.state with
  | running =>
    dsimp only
    split
    · exact state
    · exact (congrArg Status.state (flush_status ..)).trans state
  | starting => rfl
  | _ => exact state

end Outbox

namespace Outbox.System

variable {s t : System} {c : Label} {reports : List Report} {n m : Nat}

/-! ### The outbox of a client

A client lets its outbox do less than it can: nobody waits for deliveries but calls that stop it. -/

/-- Whether a client lets its outbox make a step, as a part of a call known by a number or besides all
calls. -/
def Label.IsOf (n : Nat) : Label → Prop
  | .flush _ => False
  | .stop m => m = n
  | .resume m => m = n
  | _ => True

theorem Moves.stops (step : s.Moves c t reports) (own : c.IsOf n)
    (h : ∀ caller ∈ s.callers, caller.2.purpose = .stop) :
    ∀ caller ∈ t.callers, caller.2.purpose = .stop := by
  intro caller hc
  cases step with
  | flush => exact own.elim
  | stop =>
    rw [withCaller_callers, applied_callers] at hc
    rcases List.mem_append.mp hc with hc | hc
    · exact h caller hc
    · rw [List.mem_singleton.mp hc]
  | look found =>
    rcases mem_replace hc with hc | rfl
    · exact h caller hc
    · have before := h _ (mem_of_lookup found)
      exact before
  | flushed | ended => exact h caller (List.mem_filter.mp hc).1
  | _ => exact h caller (by simpa using hc)

/-- Whether another call waits does not change. -/
theorem Moves.isWaiting_of_ne (step : s.Moves c t reports) (own : c.IsOf n) (other : m ≠ n) :
    t.isWaiting m = s.isWaiting m := by
  unfold isWaiting
  cases step with
  | flush => exact own.elim
  | stop =>
    cases own
    rw [withCaller_callers, applied_callers, List.lookup_append, List.lookup_cons,
      beq_eq_false_iff_ne.mpr other]
    simp
  | look =>
    cases own
    rw [lookup_replace_of_ne other]
  | flushed | ended =>
    cases own
    rw [lookup_without_of_ne other]
  | _ => simp

end Outbox.System

namespace Client

variable {c c' : Client} {n m : Nat} {place place' : Place} {reports : List Report}

/-- The outbox stays as it is or makes a step, as a part of a call or besides all calls. -/
def Evolves (n : Nat) (s t : Outbox.System) : Prop :=
  t = s ∨ ∃ label reports, label.IsOf n ∧ s.Moves label t reports

namespace Evolves

variable {s t : Outbox.System}

theorem ordered (h : Evolves n s t) (before : s.Ordered) : t.Ordered := by
  obtain rfl | ⟨label, reports, -, step⟩ := h
  · exact before
  · exact before.next step

theorem stops (h : Evolves n s t) (before : ∀ caller ∈ s.callers, caller.2.purpose = .stop) :
    ∀ caller ∈ t.callers, caller.2.purpose = .stop := by
  obtain rfl | ⟨label, reports, own, step⟩ := h
  · exact before
  · exact step.stops own before

theorem isWaiting_of_ne (h : Evolves n s t) (other : m ≠ n) : t.isWaiting m = s.isWaiting m := by
  obtain rfl | ⟨label, reports, own, step⟩ := h
  · rfl
  · exact step.isWaiting_of_ne own other

end Evolves

section WithOutbox

variable (c) (label : Outbox.System.Label)

@[simp] theorem withOutbox_status : (c.withOutbox label).1.status = c.status := by
  unfold withOutbox
  split <;> rfl

@[simp] theorem withOutbox_integration : (c.withOutbox label).1.integration = c.integration := by
  unfold withOutbox
  split <;> rfl

@[simp] theorem withOutbox_isLocked : (c.withOutbox label).1.isLocked = c.isLocked := by
  unfold withOutbox
  split <;> rfl

@[simp] theorem withOutbox_segments : (c.withOutbox label).1.segments = c.segments := by
  unfold withOutbox
  split <;> rfl

theorem evolves_withOutbox {label : Outbox.System.Label} (own : label.IsOf n) :
    Evolves n c.outbox (c.withOutbox label).1.outbox := by
  unfold withOutbox
  split
  · next step => exact .inr ⟨label, _, own, Outbox.System.moves_of_next? step⟩
  · exact .inl rfl

end WithOutbox

/-- The lock is taken only if it is free. -/
theorem exists_of_lock? (h : c.lock? = some c') :
    c.isLocked = false ∧ c' = { c with isLocked := true } := by
  unfold lock? at h
  split at h
  · cases h
  · next free => exact ⟨Bool.eq_false_iff.mpr free, (Option.some.inj h).symm⟩

/-- What a step of a call does to the outbox. -/
theorem evolves_of_step? (h : c.step? n place = some (place', c', reports)) :
    Evolves n c.outbox c'.outbox := by
  cases place with
  | start inRuntime =>
    obtain ⟨d, taken, h⟩ := Option.map_eq_some_iff.mp h
    cases h
    rw [(exists_of_lock? taken).2]
    exact .inl rfl
  | update integration =>
    obtain ⟨d, taken, h⟩ := Option.map_eq_some_iff.mp h
    have same : d.outbox = c.outbox := by rw [(exists_of_lock? taken).2]
    split at h <;> cases h <;> exact .inl same
  | startOutbox inRuntime =>
    cases h
    exact evolves_withOutbox c (show (Outbox.System.Label.start inRuntime).IsOf n from trivial)
  | stopOutbox wasStarted =>
    cases h
    exact evolves_withOutbox c rfl
  | updateOutbox integration =>
    cases h
    exact evolves_withOutbox c (show (Outbox.System.Label.update integration).IsOf n from trivial)
  | stopWait wasStarted =>
    simp only [step?] at h
    split at h
    · obtain ⟨⟨outbox, _⟩, step, h⟩ := Option.map_eq_some_iff.mp h
      cases h
      exact .inr ⟨.resume n, _, rfl, Outbox.System.moves_of_next? step⟩
    · cases h
      exact .inl rfl
  | updateSegments integration =>
    cases h
    exact .inl rfl
  | startCheck | stop | updateCheck =>
    simp only [step?] at h
    split at h <;> cases h <;> exact .inl rfl
  | done => cases h
  | _ =>
    cases h
    exact .inl rfl

/-- What happens to the outbox besides calls. -/
theorem evolves_meet (c : Client) (incident : Incident) (n : Nat) :
    Evolves n c.outbox (c.meet incident).1.outbox := by
  cases incident with
  | send | fire | attempt => exact evolves_withOutbox c trivial
  | fetch | answer =>
    simp only [meet, withSegments]
    split <;> exact .inl rfl

/-- Neither the status nor the configuration is touched, in no part of the client. -/
structure Undisturbed (c d : Client) : Prop where
  status : d.status = c.status
  integration : d.integration = c.integration
  isLocked : d.isLocked = c.isLocked
  segments : d.segments.segments.integration = c.segments.segments.integration
  state : d.outbox.outbox.status.state = c.outbox.outbox.status.state
  outbox : d.outbox.outbox.integration = c.outbox.outbox.integration

theorem undisturbed_withOutbox (c : Client) {label : Outbox.System.Label}
    (keeps : ∀ {t reports}, c.outbox.Moves label t reports →
      t.outbox.status.state = c.outbox.outbox.status.state ∧
        t.outbox.integration = c.outbox.outbox.integration) :
    Undisturbed c (c.withOutbox label).1 := by
  unfold withOutbox
  split
  · next step =>
    obtain ⟨state, outbox⟩ := keeps (Outbox.System.moves_of_next? step)
    exact ⟨rfl, rfl, rfl, rfl, state, outbox⟩
  · exact ⟨rfl, rfl, rfl, rfl, rfl, rfl⟩

theorem undisturbed_withSegments (c : Client) {label : Segments.System.Label}
    (keeps : ∀ {t reports}, c.segments.next? label = some (t, reports) →
      t.segments.integration = c.segments.segments.integration) :
    Undisturbed c (c.withSegments label).1 := by
  unfold withSegments
  split
  · next step => exact ⟨rfl, rfl, rfl, keeps step, rfl, rfl⟩
  · exact ⟨rfl, rfl, rfl, rfl, rfl, rfl⟩

/-- What happens besides calls touches neither status nor configuration. -/
theorem undisturbed_meet (c : Client) (incident : Incident) :
    Undisturbed c (c.meet incident).1 := by
  cases incident with
  | send id event =>
    refine undisturbed_withOutbox c fun step => ?_
    cases step
    simp
  | fire generation =>
    refine undisturbed_withOutbox c fun step => ?_
    cases step
    simp
  | attempt batch draw outcome =>
    refine undisturbed_withOutbox c fun step => ?_
    cases step <;> exact ⟨rfl, rfl⟩
  | fetch n now userId options =>
    refine undisturbed_withSegments c fun step => ?_
    have keeps := (Segments.Keeps.beginFetch c.segments.segments now (userKey userId) userId
      options).integration
    simp only [Segments.System.next?] at step
    split at step <;> cases step <;> exact keeps
  | answer n now result said =>
    refine undisturbed_withSegments c fun step => ?_
    obtain ⟨pending, -, step⟩ := Option.bind_eq_some_iff.mp step
    cases step
    exact Segments.endFetch_integration ..

end Client

end Targeting.Platform
