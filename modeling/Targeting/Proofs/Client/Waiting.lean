import Targeting.Proofs.Client.Lockstep
import Targeting.Proofs.Service

/-!
# Waiting for a client to run

A client whose calls are tasks is a service as well. In a turn it may set several states, one after the
other, and those who wait do not see the ones in between. But a call that lets the client run is about to
return, so what it is seen to do is to set one state, or none. And nothing follows a state in which it has
finished: between turns its outbox is in the same state, and nothing follows there.

## Main definitions

* `Client.Since` — what has become of a client while a call made some steps
* `Service.client` — a client whose calls are tasks, as a service

## Main results

* `Client.status_of_step?` — what a step of a call does to the status
* `Client.Since.step` — what it does to all that has become of the client
* `Service.keepsToLife_client` — nothing follows a state in which such a client has finished
* `Service.waiters_settle` — what becomes of those who wait for a service to run
-/

namespace Targeting.Platform

/-- A state in which the service does not run leaves no trace in the status. -/
theorem Status.set_set {status : Status} {a b : State} (idle : a ≠ .running) :
    (status.set a).set b = status.set b := by
  simp [Status.set, beq_eq_false_iff_ne.mpr idle]

namespace Client

variable {b c c' : Client} {n : Nat} {place place' : Place} {reports : List Report}

/-- Whether a call only has to return. -/
def Place.isReturning : Place → Bool
  | leave _ | done _ => true
  | _ => false

/-- A call that only has to return leaves the status alone, and it still only has to return. -/
theorem isReturning_of_step? (h : c.step? n place = some (place', c', reports))
    (returning : place.isReturning = true) : place'.isReturning = true ∧ c'.status = c.status := by
  cases place with
  | leave =>
    cases h
    exact ⟨rfl, rfl⟩
  | done => cases h
  | _ => cases returning

/-- A step of a call leaves the status alone, or it sets one state; if the client runs then, the call only has
to return. -/
theorem status_of_step? (h : c.step? n place = some (place', c', reports)) :
    c'.status = c.status ∨ c'.status = c.status.set c'.status.state ∧
      (c'.status.state = .running → place'.isReturning = true) := by
  cases place with
  | start inRuntime =>
    obtain ⟨d, taken, h⟩ := Option.map_eq_some_iff.mp h
    cases h
    exact .inl (by rw [(exists_of_lock? taken).2])
  | update integration =>
    obtain ⟨d, taken, h⟩ := Option.map_eq_some_iff.mp h
    have same : d.status = c.status := by rw [(exists_of_lock? taken).2]
    split at h <;> cases h <;> exact .inl same
  | startMark | stopNew | stopMark =>
    cases h
    exact .inr ⟨rfl, fun runs => by cases runs⟩
  | startFail | startRun | stopEnd | updateRun =>
    cases h
    exact .inr ⟨rfl, fun _ => rfl⟩
  | startOutbox | stopOutbox | updateOutbox =>
    simp only [step?, Option.some.injEq, Prod.mk.injEq] at h
    obtain ⟨rfl, rfl, -⟩ := h
    exact .inl (withOutbox_status ..)
  | startCheck | stop | updateCheck =>
    simp only [step?] at h
    split at h <;> cases h <;> exact .inl rfl
  | stopWait wasStarted =>
    simp only [step?] at h
    split at h
    · obtain ⟨⟨outbox, said⟩, -, h⟩ := Option.map_eq_some_iff.mp h
      cases h
      exact .inl rfl
    · cases h
      exact .inl rfl
  | done => cases h
  | updateSegments | leave =>
    cases h
    exact .inl rfl

/-- Nothing follows a state in which the outbox has finished. -/
theorem Evolves.eq_of_isFinished {s t : Outbox.System} (h : Evolves n s t) (ordered : s.Ordered)
    (finished : s.outbox.status.state.isFinished = true) :
    t.outbox.status.state = s.outbox.status.state := by
  obtain rfl | ⟨label, reports, -, step⟩ := h
  · rfl
  · exact (ordered.leads step).eq_of_isFinished finished

/-- What has become of a client while a call made some steps. -/
structure Since (b c : Client) (place : Place) : Prop where
  status : c.status = b.status ∨ c.status = b.status.set c.status.state ∧
    (c.status.state = .running → place.isReturning = true)
  ordered : c.outbox.Ordered
  finished : b.outbox.outbox.status.state.isFinished = true →
    c.outbox.outbox.status.state = b.outbox.outbox.status.state

namespace Since

theorem refl (ordered : c.outbox.Ordered) (place : Place) : c.Since c place :=
  ⟨.inl rfl, ordered, fun _ => rfl⟩

theorem step (h : b.Since c place) (next : c.step? n place = some (place', c', reports)) :
    b.Since c' place' where
  status := by
    by_cases returning : place.isReturning = true
    · obtain ⟨still, same⟩ := isReturning_of_step? next returning
      rw [same]
      exact h.status.imp_right fun ⟨set, _⟩ => ⟨set, fun _ => still⟩
    · -- The state that was set before is not the one in which the client runs.
      have idle := h.status.imp_right fun ⟨set, runs⟩ => And.intro set (mt runs returning)
      rcases status_of_step? next with same | ⟨set, runs⟩
      · rw [same]
        exact idle.imp_right fun ⟨set, idle⟩ => ⟨set, fun running => absurd running idle⟩
      · rcases idle with same | ⟨before, idle⟩
        · exact .inr ⟨by rw [← same, ← set], runs⟩
        · refine .inr ⟨?_, runs⟩
          rw [set, before, Status.set_set idle]
          rfl
  ordered := (evolves_of_step? next).ordered h.ordered
  finished ended := by
    have same := h.finished ended
    exact ((evolves_of_step? next).eq_of_isFinished h.ordered (same ▸ ended)).trans same

theorem advances (h : b.Since c place) (before : b.InStep) (after : c.InStep) :
    b.status.Advances c.status := by
  refine h.status.imp_right fun ⟨set, _⟩ => ⟨set, fun ended => ?_⟩
  rw [after.states, before.states]
  exact h.finished (before.states ▸ ended)

end Since

namespace System

variable {s t : System}

theorem Settled.advances (h : s.Settled) {choice : Turn}
    (step : s.turn? choice = some (t, reports)) : s.client.status.Advances t.client.status := by
  have after := (h.turn step).inStep
  have take {n : Nat} {place : Place} {steps : Nat}
      (taken : s.take? n place steps = some (t, reports)) :
      s.client.status.Advances t.client.status := by
    have since := runFrom_induction (n := n) (fun _ _ _ _ _ => Since.step) steps
      (Since.refl h.inStep.ordered place)
    simp only [take?] at taken
    split at taken <;> cases taken
    exact since.advances h.inStep after
  cases choice with
  | call n call steps =>
    simp only [turn?] at step
    split at step
    · cases step
    · exact take step
  | goOn n steps =>
    obtain ⟨place, -, step⟩ := Option.bind_eq_some_iff.mp step
    exact take step
  | incident incident =>
    cases step
    exact .inl (undisturbed_meet s.client incident).status

end System

end Client

namespace Service

/-- A client whose calls are tasks, as a service. -/
def client (settings : OutboxSettings) (cache : Cache String (List String)) :
    Service Client.System Client.System.Turn Client.Report where
  start := { client := .fresh settings cache }
  step? := Client.System.turn?
  status s := s.client.status
  new := rfl

theorem keepsToLife_client (settings : OutboxSettings) (cache : Cache String (List String))
    (labels : List (Label Client.System.Turn)) : (client settings cache).KeepsToLife labels :=
  keepsToLife_of_invariant (Client.System.Settled.fresh settings cache)
    (fun _ _ _ _ settled step => ⟨settled.turn step, settled.advances step⟩) labels

/-- What becomes of those who wait for a service to run does not depend on when they come and when they
look, if nothing follows a state in which the service has finished. So it is with every outbox, and with
every client whose calls are tasks. -/
theorem waiters_settle :
    (∀ {σ ι ρ : Type} (service : Service σ ι ρ) (labels : List (Label ι)),
      service.KeepsToLife labels → service.Settles labels) ∧
    (∀ settings labels,
      (outbox settings).KeepsToLife labels ∧ (outbox settings).Settles labels) ∧
    (∀ settings cache labels,
      (client settings cache).KeepsToLife labels ∧ (client settings cache).Settles labels) :=
  ⟨fun _ _ life => life.settles,
    fun settings labels =>
      ⟨keepsToLife_outbox settings labels, (keepsToLife_outbox settings labels).settles⟩,
    fun settings cache labels =>
      ⟨keepsToLife_client settings cache labels, (keepsToLife_client settings cache labels).settles⟩⟩

/-- Someone begins to wait for an outbox and looks when it is starting, another one comes when it is stopping
again. Nobody looks while it runs, and both are told that it does. -/
theorem waiters_settle_after_stopping :
    let labels : List (Label Outbox.System.Label) :=
      [.come 0, .step (.start true), .look 0, .step (.update .notIntegrated), .step (.stop 0),
        .come 1, .look 0, .look 1]
    (outbox {}).KeepsToLife labels ∧ ((outbox {}).statusAfter labels).state = .stopping ∧
      ((outbox {}).after labels).waiters 0 = .told (.ok ()) ∧
      ((outbox {}).after labels).waiters 1 = .told (.ok ()) ∧ (outbox {}).Runs labels := by
  intro labels
  obtain ⟨settles, outboxes, -⟩ := waiters_settle
  have life := (outboxes {} labels).1
  have told : ((outbox {}).after labels).waiters 1 = .told (.ok ()) := rfl
  exact ⟨life, rfl, rfl, told, ((settles (outbox {}) labels life).told 1 _ told).1.mp rfl⟩

end Service

end Targeting.Platform
