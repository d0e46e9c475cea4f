import Targeting.Proofs.Client.System
import Targeting.Proofs.Run

/-!
# Threads that race for the status of a client

Starting and configuring look at the status and set it while they hold the lock. Stopping does both without
it. So a stop may come between the look of another call and what this call does next: the status is set to
starting or to running although it was terminated in the meantime, and a client may say that it runs while
its outbox has ended.

Nothing else can go wrong. Whatever threads do, a client that was once over never comes back and never runs
without its outbox, unless a call sets the status *too late*, when the client is over already.

## Main definitions

* `Client.Place.mark?` — the state that a step from a place sets
* `Client.System.StaysOver` — a client that was over never comes back, and never runs without its outbox
* `Client.System.IsLate` — a step that sets the status too late

## Main results

* `Client.System.staysOver_iff` — a client stays over exactly if no step is too late
* `Client.System.not_staysOver_of_overtaking` — a stop overtakes a start
-/

namespace Targeting.Platform

namespace Outbox

variable {finished : Nat → Bool} {o : Outbox}

theorem halted_of_start {inRuntime : Bool} (h : (o.start inRuntime).2.1.Halted) : o.Halted := by
  unfold start at h
  split at h
  · exact h
  · split at h
    · rw [Halted] at h
      cases configured : o.integration.isSome <;> simp [configured] at h
    · simp [Halted] at h

theorem halted_of_update {integration : Integration} (h : (o.update finished integration).1.Halted) :
    o.Halted := by
  rw [Halted, update_state] at h
  split at h
  · simp at h
  · exact h

end Outbox

namespace Client

variable {c c' : Client} {n m : Nat} {place place' : Place} {reports : List Report}

namespace Place

/-- The state that a step from a place sets. -/
def mark? : Place → Option State
  | startMark _ => some .starting
  | startFail _ => some .failed
  | startRun => some .running
  | stopNew => some .terminated
  | stopMark => some .stopping
  | stopEnd => some .terminated
  | updateRun => some .running
  | _ => none

/-- Whether a step from a place sets the status to starting or to running. -/
def revives (place : Place) : Bool := place.mark?.any (!·.isOver)

/-- Whether a call at a place has stopped the client. -/
def hasStopped : Place → Bool
  | stopOutbox _ | stopWait _ | stopEnd => true
  | _ => false

end Place

/-! ### Steps -/

/-- A step sets the state that belongs to its place, and no other step sets any. -/
theorem state_of_step? (h : c.step? n place = some (place', c', reports)) :
    c'.status.state = place.mark?.getD c.status.state := by
  cases place with
  | start inRuntime =>
    obtain ⟨d, taken, h⟩ := Option.map_eq_some_iff.mp h
    cases h
    rw [(exists_of_lock? taken).2]
    rfl
  | update integration =>
    obtain ⟨d, taken, h⟩ := Option.map_eq_some_iff.mp h
    have same : d.status.state = c.status.state := by rw [(exists_of_lock? taken).2]
    split at h <;> cases h <;> exact same
  | startOutbox | stopOutbox | updateOutbox =>
    simp only [step?, Option.some.injEq, Prod.mk.injEq] at h
    obtain ⟨-, rfl, -⟩ := h
    rw [withOutbox_status]
    rfl
  | stopWait =>
    simp only [step?] at h
    split at h
    · obtain ⟨_, -, h⟩ := Option.map_eq_some_iff.mp h
      cases h
      rfl
    · cases h
      rfl
  | startCheck | stop =>
    simp only [step?] at h
    split at h <;> cases h <;> rfl
  | done => cases h
  | _ =>
    cases h
    rfl

theorem hasStopped_afterOutbox (c : Client) (reports : List Report) :
    (c.afterOutbox reports).hasStopped = false := by
  unfold afterOutbox
  dsimp only
  split
  · rfl
  · split <;> rfl

/-- Where a call has stopped the client after a step, it had done so before, or does so by this step. -/
theorem hasStopped_of_step? (h : c.step? n place = some (place', c', reports))
    (stopped : place'.hasStopped = true) :
    place.hasStopped = true ∨ ∃ state, place.mark? = some state ∧ state.isOver = true := by
  cases place with
  | stopOutbox | stopWait | stopEnd => exact .inl rfl
  | stopNew => exact .inr ⟨.terminated, rfl, rfl⟩
  | stopMark => exact .inr ⟨.stopping, rfl, rfl⟩
  | start =>
    obtain ⟨d, -, h⟩ := Option.map_eq_some_iff.mp h
    cases h
    cases stopped
  | update =>
    obtain ⟨d, -, h⟩ := Option.map_eq_some_iff.mp h
    split at h <;> cases h <;> cases stopped
  | startOutbox =>
    simp only [step?, Option.some.injEq, Prod.mk.injEq] at h
    obtain ⟨rfl, -, -⟩ := h
    rw [hasStopped_afterOutbox] at stopped
    cases stopped
  | startCheck | stop =>
    simp only [step?] at h
    split at h <;> cases h <;> cases stopped
  | updateCheck =>
    simp only [step?, Option.some.injEq, Prod.mk.injEq] at h
    obtain ⟨rfl, -, -⟩ := h
    split at stopped <;> cases stopped
  | done => cases h
  | _ =>
    cases h
    cases stopped

/-- Only a call that has stopped the client brings its outbox to a halt. -/
theorem halted_of_step? (h : c.step? n place = some (place', c', reports))
    (halted : c'.outbox.outbox.Halted) : c.outbox.outbox.Halted ∨ place.hasStopped = true := by
  cases place with
  | stopOutbox | stopWait | stopEnd => exact .inr rfl
  | start =>
    obtain ⟨d, taken, h⟩ := Option.map_eq_some_iff.mp h
    cases h
    rw [(exists_of_lock? taken).2] at halted
    exact .inl halted
  | update =>
    obtain ⟨d, taken, h⟩ := Option.map_eq_some_iff.mp h
    have same : d.outbox = c.outbox := by rw [(exists_of_lock? taken).2]
    split at h <;> cases h <;> exact .inl (same ▸ halted)
  | startOutbox inRuntime =>
    simp only [step?, Option.some.injEq, Prod.mk.injEq] at h
    obtain ⟨-, rfl, -⟩ := h
    have started : (c.withOutbox (.start inRuntime)).1.outbox.outbox =
        (c.outbox.outbox.start inRuntime).2.1 := by simp [withOutbox, Outbox.System.next?]
    rw [started] at halted
    exact .inl (Outbox.halted_of_start halted)
  | updateOutbox integration =>
    simp only [step?, Option.some.injEq, Prod.mk.injEq] at h
    obtain ⟨-, rfl, -⟩ := h
    have told : (c.withOutbox (.update integration)).1.outbox.outbox =
        (c.outbox.outbox.update c.outbox.isFinished integration).1 := by
      simp [withOutbox, Outbox.System.next?]
    rw [told] at halted
    exact .inl (Outbox.halted_of_update halted)
  | startCheck | stop =>
    simp only [step?] at h
    split at h <;> cases h <;> exact .inl halted
  | done => cases h
  | _ =>
    cases h
    exact .inl halted

/-! ### What stays if no step is too late -/

namespace System

variable {s t : System}

/-- A client whose outbox was brought to a halt, or that a call has stopped, is over. -/
structure Guarded (s : System) : Prop where
  outbox : s.client.outbox.outbox.Halted → s.client.status.state.isOver = true
  calls : ∀ call ∈ s.calls, call.2.hasStopped = true → s.client.status.state.isOver = true

/-- A step sets the status to starting or to running, although the client is over. -/
def IsLate (step : Step System Label Report) : Prop :=
  step.before.client.status.state.isOver = true ∧
    ∃ n place, step.choice = .step n ∧ step.before.calls.lookup n = some place ∧ place.revives = true

/-- A client that was once over is never starting or running afterwards, and it never runs while its outbox
has ended. -/
def StaysOver (start : System) (labels : List Label) : Prop :=
  ∀ past between later, labels = past ++ between ++ later →
    let earlier := Run.final next? start past
    let now := Run.final next? start (past ++ between)
    (earlier.client.status.state.isOver = true →
      now.client.status.state ≠ .starting ∧ now.client.status.state ≠ .running) ∧
    ¬ (now.client.status.state = .running ∧ now.client.outbox.outbox.status.state = .terminated)

/-- Unless it is too late, a step of a client that is over leaves it over. -/
theorem isOver_of_next? {label : Label} (step : s.next? label = some (t, reports))
    (timely : ¬ IsLate ⟨s, label, t, reports⟩) (ended : s.client.status.state.isOver = true) :
    t.client.status.state.isOver = true := by
  cases label with
  | call n call =>
    simp only [next?] at step
    split at step
    · cases step
    · cases step
      exact ended
  | step n =>
    obtain ⟨place, found, step⟩ := Option.bind_eq_some_iff.mp step
    obtain ⟨⟨place', c', said⟩, made, step⟩ := Option.bind_eq_some_iff.mp step
    cases step
    change c'.status.state.isOver = true
    rw [state_of_step? made]
    cases mark : place.mark? with
    | none => exact ended
    | some state =>
      cases alive : state.isOver with
      | true => exact alive
      | false =>
        have revives : place.revives = true := by
          rw [Place.revives, mark, Option.any_some, alive]
          rfl
        exact absurd ⟨ended, n, place, rfl, found, revives⟩ timely
  | incident incident =>
    cases step
    change (s.client.meet incident).1.status.state.isOver = true
    rw [(undisturbed_meet s.client incident).status, ended]

theorem mem_of_mem_moved {call : Nat × Place} (h : call ∈ (s.moved n place c).calls) :
    call = (n, place) ∨ call ∈ s.calls :=
  (List.mem_cons.mp h).imp_right fun other => (List.mem_filter.mp other).1

theorem Guarded.next (h : s.Guarded) {label : Label} (step : s.next? label = some (t, reports))
    (timely : ¬ IsLate ⟨s, label, t, reports⟩) : t.Guarded := by
  have stays := isOver_of_next? step timely
  cases label with
  | call n call =>
    simp only [next?] at step
    split at step
    · cases step
    · cases step
      refine ⟨h.outbox, fun other member stopped => ?_⟩
      obtain rfl | old := mem_of_mem_moved member
      · cases call <;> cases stopped
      · exact h.calls other old stopped
  | step n =>
    obtain ⟨place, found, step⟩ := Option.bind_eq_some_iff.mp step
    obtain ⟨⟨place', c', said⟩, made, step⟩ := Option.bind_eq_some_iff.mp step
    cases step
    have before (stopped : place.hasStopped = true) : s.client.status.state.isOver = true :=
      h.calls (n, place) (Outbox.System.mem_of_lookup found) stopped
    refine ⟨fun halted => ?_, fun other member stopped => ?_⟩
    · obtain halted | stopped := halted_of_step? made halted
      · exact stays (h.outbox halted)
      · exact stays (before stopped)
    · obtain rfl | old := mem_of_mem_moved member
      · obtain stopped | ⟨state, mark, ended⟩ := hasStopped_of_step? made stopped
        · exact stays (before stopped)
        · change c'.status.state.isOver = true
          rw [state_of_step? made, mark]
          exact ended
      · exact stays (h.calls other old stopped)
  | incident incident =>
    cases step
    have undisturbed := undisturbed_meet s.client incident
    refine ⟨fun halted => stays (h.outbox ?_), fun other member stopped => ?_⟩
    · rwa [Outbox.Halted, ← undisturbed.state]
    · exact stays (h.calls other member stopped)

/-- A step that is too late makes a client starting or running that is over. -/
theorem IsLate.revived {step : Step System Label Report} (late : IsLate step)
    (taken : step.before.next? step.choice = some (step.after, step.reports)) :
    step.after.client.status.state = .starting ∨ step.after.client.status.state = .running := by
  obtain ⟨-, n, place, choice, found, revives⟩ := late
  rw [choice] at taken
  obtain ⟨place, found', taken⟩ := Option.bind_eq_some_iff.mp taken
  cases found.symm.trans found'
  obtain ⟨⟨place', c', said⟩, made, taken⟩ := Option.bind_eq_some_iff.mp taken
  have after : step.after.client = c' := by rw [← (Prod.mk.inj (Option.some.inj taken)).1]; rfl
  rw [after, state_of_step? made]
  cases place with
  | startMark => exact .inl rfl
  | startRun | updateRun => exact .inr rfl
  | _ => cases revives

/-- In a run without steps that are too late, a client that is over stays over. -/
theorem guarded_of_timely (h : s.Guarded) {labels : List Label}
    (timely : ∀ step ∈ Run.steps next? s labels, ¬ IsLate step) :
    (Run.final next? s labels).Guarded ∧
      (s.client.status.state.isOver = true →
        (Run.final next? s labels).client.status.state.isOver = true) := by
  refine Run.induction (motive := fun past t => (∀ step ∈ past, ¬ IsLate step) → t.Guarded ∧
    (s.client.status.state.isOver = true → t.client.status.state.isOver = true))
    (fun _ => ⟨h, id⟩) ?_ labels timely
  intro past t label u reports ih step timely
  have last : ¬ IsLate ⟨t, label, u, reports⟩ := timely _ List.mem_concat_self
  obtain ⟨guarded, ended⟩ := ih fun x member => timely x (List.mem_append_left _ member)
  exact ⟨guarded.next step last, fun before => isOver_of_next? step last (ended before)⟩

/-- Whatever threads do, a client that was over never comes back and never runs without its outbox,
exactly if no call sets the status too late. -/
theorem staysOver_iff (settings : OutboxSettings) (cache : Cache String (List String))
    (labels : List Label) :
    let start : System := { client := .fresh settings cache }
    StaysOver start labels ↔ ∀ step ∈ Run.steps next? start labels, ¬ IsLate step := by
  intro start
  have initial : start.Guarded :=
    { outbox := fun halted => by rcases halted with stopping | terminated <;> contradiction
      calls := List.forall_mem_nil _ }
  constructor
  · intro law step member late
    obtain ⟨past, later, rfl, before, taken⟩ := Run.exists_of_mem_steps member
    obtain ⟨never, -⟩ := law past [step.choice] later (by simp)
    rw [Run.final_append, before, Run.final_cons_of_some taken] at never
    obtain ⟨notStarting, notRunning⟩ := never late.1
    exact (late.revived taken).elim notStarting notRunning
  · rintro timely past between later rfl
    rw [Run.steps_append, Run.steps_append] at timely
    obtain ⟨guarded, -⟩ := guarded_of_timely initial fun step member =>
      timely step (List.mem_append_left _ (List.mem_append_left _ member))
    obtain ⟨guarded', stays⟩ := guarded_of_timely guarded fun step member =>
      timely step (List.mem_append_left _ (List.mem_append_right _ member))
    rw [Run.final_append]
    refine ⟨fun ended => ?_, fun ⟨running, terminated⟩ => ?_⟩
    · have after := stays ended
      constructor <;> intro state <;> rw [state] at after <;> cases after
    · have ended := guarded'.outbox (.inr terminated)
      rw [running] at ended
      cases ended

/-- A client that is configured is started, and a stop comes between the look at its status and the first
time that this is set. -/
def overtaking : List Label :=
  [.call 0 (.update .notIntegrated)] ++ List.replicate 6 (.step 0) ++
    [.call 1 (.start true), .step 1, .step 1, .call 2 .stop] ++ List.replicate 4 (.step 2) ++
    List.replicate 3 (.step 1)

/-- A stop that overtakes a start is forgotten: the client runs, and its outbox has ended. -/
theorem not_staysOver_of_overtaking :
    ¬ StaysOver { client := .fresh {} { capacity := 10, timeout := none } } overtaking := by
  intro law
  obtain ⟨-, together⟩ := law [] overtaking [] (by simp)
  exact together ⟨rfl, rfl⟩

end System

end Client

end Targeting.Platform
