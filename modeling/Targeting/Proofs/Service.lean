import Mathlib.Logic.Function.Basic
import Targeting.Proofs.Outbox.Conservation

/-!
# Waiting for a service to run

Those who wait for a service to run look at its status now and then, and miss what it was in between. Yet
what becomes of them does not depend on when they came and when they looked. If the service runs at some
time then nobody is told anything else, since the status remembers that it ran. And if it is over without
having run then it will never run, since nothing follows a state in which it has finished. This is all that
matters of the life of a service here, and every outbox keeps to it.

## Main definitions

* `Service` — a system whose status can be seen
* `Service.Watch`, `Service.next?` — a service with those who wait for it, and their steps
* `Status.Advances`, `Service.KeepsToLife` — steps and runs in which nothing follows a finished state
* `Service.Settles` — what becomes of those who wait, in a run

## Main results

* `Status.onRunning?_eq_some_iff` — what a status tells those who wait
* `Status.Advances.onRunning?` — what a status tells them is still told later
* `Service.KeepsToLife.settles` — all is settled in a run in which nothing follows a finished state
* `Service.keepsToLife_outbox` — every run of an outbox is such a run
-/

namespace Targeting.Platform

/-! ### What a status tells -/

namespace Status

variable {a b : Status} {result : Except Failure Unit}

/-- A step of a service in its life: it sets no state, or it sets one, and then it has not finished yet or
sets the same state again. -/
def Advances (a b : Status) : Prop :=
  b = a ∨ b = a.set b.state ∧ (a.state.isFinished = true → b.state = a.state)

theorem onRunning?_eq_some_iff : a.onRunning? = some result ↔
    a.hasRun = true ∧ result = .ok () ∨
    a.hasRun = false ∧ a.state = .failed ∧ result = .error .startFailed ∨
    a.hasRun = false ∧ a.state = .terminated ∧ result = .error .stopped := by
  cases ran : a.hasRun <;> cases state : a.state <;>
    simp [onRunning?, ran, state, State.isFinished, eq_comm]

theorem onRunning?_eq_none_iff :
    a.onRunning? = none ↔ a.hasRun = false ∧ a.state.isFinished = false := by
  cases ran : a.hasRun <;> cases state : a.state <;> simp [onRunning?, ran, state, State.isFinished]

namespace Advances

variable (h : a.Advances b)
include h

/-- A service has run after a step if it had run before, or if it runs now. -/
theorem hasRun_iff (marked : a.state = .running → a.hasRun = true) :
    b.hasRun = true ↔ a.hasRun = true ∨ b.state = .running := by
  obtain rfl | ⟨set, -⟩ := h
  · exact ⟨.inl, fun ran => ran.elim id marked⟩
  · rw [set]
    simp [Status.set]

/-- What a status tells those who wait is still told later. -/
theorem onRunning? (told : a.onRunning? = some result) : b.onRunning? = some result := by
  obtain rfl | ⟨set, stays⟩ := h
  · exact told
  · rw [onRunning?_eq_some_iff] at told
    obtain ⟨ran, rfl⟩ | ⟨idle, failed, rfl⟩ | ⟨idle, terminated, rfl⟩ := told
    · rw [set, Status.onRunning?, Status.set, ran]
      rfl
    · rw [set, stays (by rw [failed]; rfl), Status.onRunning?, Status.set, idle, failed]
      rfl
    · rw [set, stays (by rw [terminated]; rfl), Status.onRunning?, Status.set, idle, terminated]
      rfl

end Advances

end Status

/-! ### A service with those who wait for it -/

/-- A system whose status can be seen; nothing has happened to it at the start. -/
structure Service (σ ι ρ : Type) where
  start : σ
  step? : σ → ι → Option (σ × List ρ)
  status : σ → Status
  new : status start = {}

namespace Service

/-- Where someone stands who waits for a service to run. -/
inductive Waiter where
  | absent
  | waiting
  | told (result : Except Failure Unit)

/-- A service with those who wait for it, known by numbers. -/
structure Watch (σ : Type) where
  system : σ
  waiters : Nat → Waiter := fun _ => .absent

/-- Someone has come to stand somewhere. -/
def Watch.put {σ : Type} (w : Watch σ) (n : Nat) (waiter : Waiter) : Watch σ :=
  { w with waiters := Function.update w.waiters n waiter }

/-- What happens next. -/
inductive Label (ι : Type) where
  /-- The service makes a step. -/
  | step (choice : ι)
  /-- Someone begins to wait. -/
  | come (n : Nat)
  /-- Someone who waits looks at the status. -/
  | look (n : Nat)

variable {σ ι ρ : Type} (service : Service σ ι ρ)

/-- Where someone stands who has looked at a status. -/
def Waiter.ofStatus (status : Status) : Waiter :=
  match status.onRunning? with
  | some result => .told result
  | none => .waiting

/-- The step of a choice, and what it lets the world know; none if the choice is not possible. -/
def next? (w : Watch σ) : Label ι → Option (Watch σ × List ρ)
  | .step choice =>
    (service.step? w.system choice).map fun (system, reports) => ({ w with system }, reports)
  | .come n =>
    match w.waiters n with
    | .absent => some (w.put n .waiting, [])
    | _ => none
  | .look n =>
    match w.waiters n with
    | .waiting => some (w.put n (.ofStatus (service.status w.system)), [])
    | _ => none

/-- The steps of a service, and of those who wait for it, along some choices. -/
def run (labels : List (Label ι)) : List (Step (Watch σ) (Label ι) ρ) :=
  Run.steps service.next? { system := service.start } labels

/-- The service with those who wait for it, after some choices. -/
def after (labels : List (Label ι)) : Watch σ :=
  Run.final service.next? { system := service.start } labels

/-- The status after some choices. -/
def statusAfter (labels : List (Label ι)) : Status := service.status (service.after labels).system

/-- Nothing follows a state in which the service has finished. -/
def KeepsToLife (labels : List (Label ι)) : Prop :=
  ∀ step ∈ service.run labels,
    (service.status step.before.system).Advances (service.status step.after.system)

/-- Along some choices the service runs at some time. -/
def Runs (labels : List (Label ι)) : Prop :=
  ∃ step ∈ service.run labels, (service.status step.after.system).state = .running

/-- What becomes of those who wait, along some choices. Whoever has been told something was told that the
service runs if it runs at some time, that it could not be started if it ends failed without ever running,
and that it was stopped if it ends terminated without ever running; and one of these is so. Whoever waits
may look, is told something if the service has run or has finished, and goes on waiting otherwise. -/
structure Settles (labels : List (Label ι)) : Prop where
  told : ∀ n result, (service.after labels).waiters n = .told result →
    (result = .ok () ↔ service.Runs labels) ∧
    (result = .error .startFailed ↔
      (service.statusAfter labels).state = .failed ∧ ¬ service.Runs labels) ∧
    (result = .error .stopped ↔
      (service.statusAfter labels).state = .terminated ∧ ¬ service.Runs labels) ∧
    (service.Runs labels ∨ (service.statusAfter labels).state.isFinished = true)
  look : ∀ n, (service.after labels).waiters n = .waiting →
    ∃ w reports, service.next? (service.after labels) (.look n) = some (w, reports) ∧
      (service.Runs labels ∨ (service.statusAfter labels).state.isFinished = true →
        ∃ result, w.waiters n = .told result) ∧
      (¬ service.Runs labels ∧ (service.statusAfter labels).state.isFinished = false →
        w.waiters n = .waiting)

/-! ### What a run keeps -/

/-- The status remembers whether the service ever ran, and whoever was told something would still be told
the same. -/
structure Keeps (past : List (Step (Watch σ) (Label ι) ρ)) (w : Watch σ) : Prop where
  ran : (service.status w.system).hasRun = true ↔
    ∃ step ∈ past, (service.status step.after.system).state = .running
  marked : (service.status w.system).state = .running → (service.status w.system).hasRun = true
  told : ∀ n result, w.waiters n = .told result →
    (service.status w.system).onRunning? = some result

variable {service} {labels : List (Label ι)} {w v : Watch σ} {label : Label ι} {reports : List ρ}
  {past : List (Step (Watch σ) (Label ι) ρ)} {status : Status} {result : Except Failure Unit}

@[simp] theorem Watch.put_self (w : Watch σ) (n : Nat) (waiter : Waiter) :
    (w.put n waiter).waiters n = waiter :=
  Function.update_self ..

theorem Watch.put_of_ne {n m : Nat} (other : m ≠ n) (w : Watch σ) (waiter : Waiter) :
    (w.put n waiter).waiters m = w.waiters m :=
  Function.update_of_ne other ..

/-- Whoever was told something was told it before, or by what has just been put down. -/
theorem Watch.told_of_put {n m : Nat} {waiter : Waiter}
    (told : (w.put n waiter).waiters m = .told result) :
    waiter = .told result ∨ w.waiters m = .told result := by
  by_cases here : m = n
  · exact .inl (by rwa [here, Watch.put_self] at told)
  · exact .inr (by rwa [Watch.put_of_ne here] at told)

theorem Waiter.ofStatus_eq_told_iff :
    Waiter.ofStatus status = .told result ↔ status.onRunning? = some result := by
  unfold Waiter.ofStatus
  split
  · next told => rw [told, Waiter.told.injEq, Option.some.injEq]
  · next silent => simp [silent]

theorem Waiter.ofStatus_eq_waiting_iff :
    Waiter.ofStatus status = .waiting ↔ status.onRunning? = none := by
  unfold Waiter.ofStatus
  split <;> simp_all

/-- Whoever waits may look. -/
theorem next?_look {n : Nat} (waits : w.waiters n = .waiting) :
    service.next? w (.look n) = some (w.put n (.ofStatus (service.status w.system)), []) := by
  rw [next?, waits]

theorem Keeps.initial : service.Keeps [] { system := service.start } where
  ran := by simp [service.new]
  marked := by simp [service.new]
  told := nofun

/-- Whoever is told something by a step was told it before, or is told it by the status. -/
theorem told_of_next? (step : service.next? w label = some (v, reports)) {n : Nat}
    (told : v.waiters n = .told result) :
    w.waiters n = .told result ∨ (service.status v.system).onRunning? = some result := by
  cases label with
  | step choice =>
    obtain ⟨⟨system, _⟩, -, same⟩ := Option.map_eq_some_iff.mp step
    cases same
    exact .inl told
  | come m =>
    rw [next?] at step
    split at step <;> cases step
    exact (Watch.told_of_put told).elim nofun .inl
  | look m =>
    rw [next?] at step
    split at step <;> cases step
    exact (Watch.told_of_put told).symm.imp_right Waiter.ofStatus_eq_told_iff.mp

theorem Keeps.next (h : service.Keeps past w) (step : service.next? w label = some (v, reports))
    (advances : (service.status w.system).Advances (service.status v.system)) :
    service.Keeps (past ++ [⟨w, label, v, reports⟩]) v where
  ran := by
    rw [advances.hasRun_iff h.marked, h.ran]
    simp [or_and_right, exists_or]
  marked running := (advances.hasRun_iff h.marked).mpr (.inr running)
  told n result told := (told_of_next? step told).elim
    (fun before => advances.onRunning? (h.told n result before)) id

/-- A run in which nothing follows a finished state keeps all this. -/
theorem KeepsToLife.keeps (life : service.KeepsToLife labels) :
    service.Keeps (service.run labels) (service.after labels) := by
  refine Run.induction (motive := fun (past : List (Step (Watch σ) (Label ι) ρ)) w =>
    (∀ step ∈ past, (service.status step.before.system).Advances
      (service.status step.after.system)) → service.Keeps past w)
    (fun _ => .initial) ?_ labels life
  intro past w label v reports ih step life
  exact (ih fun x member => life x (List.mem_append_left _ member)).next step
    (life _ List.mem_concat_self)

theorem KeepsToLife.settles (life : service.KeepsToLife labels) : service.Settles labels := by
  have keeps := life.keeps
  have ran : (service.statusAfter labels).hasRun = true ↔ service.Runs labels := keeps.ran
  have idle : (service.statusAfter labels).hasRun = false ↔ ¬ service.Runs labels := by
    rw [← ran, Bool.not_eq_true]
  refine ⟨fun n result told => ?_, fun n waits => ⟨_, _, next?_look waits, ?_, ?_⟩⟩
  · have tells : (service.statusAfter labels).onRunning? = some result := keeps.told n result told
    rw [Status.onRunning?_eq_some_iff, ran, idle] at tells
    obtain ⟨runs, rfl⟩ | ⟨idle, failed, rfl⟩ | ⟨idle, terminated, rfl⟩ := tells
    · simp [runs]
    · simp [idle, failed, State.isFinished]
    · simp [idle, terminated, State.isFinished]
  · intro settled
    have tells : (service.statusAfter labels).onRunning? ≠ none := by
      rw [Ne, Status.onRunning?_eq_none_iff, idle]
      rintro ⟨never, unfinished⟩
      exact settled.elim never fun finished => by simp [finished] at unfinished
    obtain ⟨result, tells⟩ := Option.ne_none_iff_exists'.mp tells
    exact ⟨result, (Watch.put_self ..).trans (Waiter.ofStatus_eq_told_iff.mpr tells)⟩
  · rintro ⟨never, unfinished⟩
    rw [Watch.put_self, Waiter.ofStatus_eq_waiting_iff]
    exact Status.onRunning?_eq_none_iff.mpr ⟨idle.mpr never, unfinished⟩

/-- A service keeps to its life if all its steps do, as long as something holds that each of them keeps. -/
theorem keepsToLife_of_invariant {invariant : σ → Prop} (initial : invariant service.start)
    (step : ∀ s choice t reports, invariant s → service.step? s choice = some (t, reports) →
      invariant t ∧ (service.status s).Advances (service.status t))
    (labels : List (Label ι)) : service.KeepsToLife labels := by
  refine (Run.induction (motive := fun (past : List (Step (Watch σ) (Label ι) ρ)) w =>
    invariant w.system ∧ ∀ step ∈ past, (service.status step.before.system).Advances
      (service.status step.after.system)) ⟨initial, List.forall_mem_nil _⟩ ?_ labels).2
  rintro past w label v reports ⟨before, life⟩ taken
  suffices invariant v.system ∧ (service.status w.system).Advances (service.status v.system) from
    ⟨this.1, List.forall_mem_append.mpr ⟨life, List.forall_mem_singleton.mpr this.2⟩⟩
  cases label with
  | step choice =>
    obtain ⟨⟨t, said⟩, made, same⟩ := Option.map_eq_some_iff.mp taken
    cases same
    exact step _ _ _ _ before made
  | come n | look n =>
    -- Those who wait leave the service alone.
    rw [next?] at taken
    split at taken <;> cases taken
    exact ⟨before, .inl rfl⟩

end Service

/-! ### Outboxes -/

/-- Nothing follows a state in which a service has finished. -/
theorem State.Leads.eq_of_isFinished {a b : State} (h : a.Leads b) (finished : a.isFinished = true) :
    b = a := by
  cases a with
  | terminated | failed => exact h.resolve_right List.not_mem_nil
  | _ => cases finished

namespace Outbox

variable {s t : System} {c : System.Label} {reports : List System.Report}

/-- A call to stop leaves the status alone, or sets one state. -/
theorem beginStop_status (finished : Nat → Bool) (o : Outbox) :
    (o.beginStop finished).2.1.status = o.status ∨
      (o.beginStop finished).2.1.status = o.status.set (o.beginStop finished).2.1.status.state := by
  unfold beginStop
  cases o.status.state with
  | new => exact .inr rfl
  | starting | running =>
    have stopping := beginFlush_status finished { o with status := o.status.set .stopping }
    dsimp only
    rw [stopping]
    exact .inr rfl
  | stopping | terminated | failed => exact .inl rfl

/-- A step leaves the status alone, or sets one state. -/
theorem System.Moves.status_eq (step : s.Moves c t reports) :
    t.outbox.status = s.outbox.status ∨
      t.outbox.status = s.outbox.status.set t.outbox.status.state := by
  cases step with
  | start inRuntime =>
    rw [applied_outbox]
    unfold Outbox.start
    split
    · exact .inl rfl
    · split <;> exact .inr rfl
  | update integration =>
    rw [applied_outbox]
    unfold Outbox.update
    split
    · exact .inl rfl
    · exact .inr rfl
    · split
      · exact .inl rfl
      · exact .inl (flush_status ..)
    · exact .inl rfl
  | stop =>
    rw [withCaller_outbox, applied_outbox]
    exact beginStop_status ..
  | stopped =>
    rw [applied_outbox]
    exact beginStop_status ..
  | ended => exact .inr rfl
  | send | flush | fire => exact .inl (by simp)
  | look | flushed | delayed | finished => exact .inl rfl

theorem System.Ordered.advances (h : s.Ordered) (step : s.Moves c t reports) :
    s.outbox.status.Advances t.outbox.status :=
  step.status_eq.imp_right fun set => ⟨set, (h.leads step).eq_of_isFinished⟩

end Outbox

namespace Service

/-- An outbox as a service. -/
def outbox (settings : OutboxSettings) :
    Service Outbox.System Outbox.System.Label Outbox.System.Report where
  start := { settings }
  step? := Outbox.System.next?
  status s := s.outbox.status
  new := rfl

theorem keepsToLife_outbox (settings : OutboxSettings) (labels : List (Label Outbox.System.Label)) :
    (outbox settings).KeepsToLife labels := by
  refine keepsToLife_of_invariant (Outbox.System.Ordered.initial settings) ?_ labels
  intro s choice t reports ordered step
  have moves := Outbox.System.moves_of_next? step
  exact ⟨ordered.next moves, ordered.advances moves⟩

end Service

end Targeting.Platform
