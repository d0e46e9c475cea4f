import Targeting.Proofs.Outbox.Ledger

/-!
# The life of the outbox

Only starting, a new configuration and stopping touch the status of an outbox, and they touch it
along a few edges. An outbox that is stopping or has stopped never comes back.

## Main definitions

* `State.next`, `State.Leads` — the states that may follow a state, and the states that it may
  become
* `State.isOver` — whether the outbox will never run again
* `Outbox.Halted` — the outbox is stopping or has stopped

## Main results

* `Outbox.leads_start`, `Outbox.leads_update`, `Outbox.leads_beginStop`, `Outbox.leads_endStop` —
  the steps follow the edges
* `Outbox.Halted.of_leads` — nothing leads back from a halt
-/

namespace Targeting.Platform

namespace State

/-- The states that may follow a state of an outbox. -/
def next : State → List State
  | new => [starting, running, failed, terminated]
  | starting => [running, stopping]
  | running => [stopping]
  | stopping => [terminated]
  | terminated => []
  | failed => []

/-- A state stays or is followed by another one. -/
def Leads (a b : State) : Prop := b = a ∨ b ∈ a.next

instance (a b : State) : Decidable (a.Leads b) := inferInstanceAs (Decidable (_ ∨ _))

theorem Leads.refl (a : State) : a.Leads a := .inl rfl

theorem Leads.eq_new {a : State} (h : a.Leads .new) : a = .new := by
  cases a <;> first | rfl | exact absurd h (by decide)

/-- Whether an outbox in a state will never run again. -/
def isOver : State → Bool
  | stopping => true
  | terminated => true
  | failed => true
  | _ => false

theorem ne_running_of_isOver {a : State} (closed : a.isOver = true) : a ≠ .running := by
  rintro rfl
  exact Bool.false_ne_true closed

theorem Leads.isOver {a b : State} (h : a.Leads b) (closed : a.isOver = true) :
    b.isOver = true := by
  cases a <;> cases b <;> revert h closed <;> decide

end State

namespace Outbox

variable {settings : OutboxSettings} {finished : Nat → Bool} {o : Outbox}

/-! ### Steps that leave the status alone -/

section Status

variable (settings finished) (o : Outbox)

@[simp] theorem arm_status : o.arm.1.status = o.status := by
  unfold arm
  split <;> rfl

@[simp] theorem accept_status (event : Event) :
    (o.accept settings finished event).1.status = o.status := by
  by_cases full : settings.fullBatch ≤ (o.queue ++ [event]).length
  · rw [accept_of_full full, flush_status]
  · rw [accept_of_not_full full, arm_status]

@[simp] theorem send_status (id : String) (event : Event) :
    (o.send settings finished id event).1.status = o.status := by
  unfold send
  split
  · rfl
  · exact accept_status ..

@[simp] theorem fire_status (generation : Nat) :
    (o.fire finished generation).1.status = o.status := by
  unfold fire
  split
  · exact flush_status ..
  · rfl

@[simp] theorem beginFlush_status : (o.beginFlush finished).2.1.status = o.status :=
  flush_status ..

end Status

/-! ### Steps along the edges -/

theorem leads_start (o : Outbox) (inRuntime : Bool) :
    o.status.state.Leads (o.start inRuntime).2.1.status.state := by
  unfold start
  split
  · exact .refl _
  · next new =>
    -- Which state follows depends on the runtime and on whether a configuration came first.
    rw [Decidable.not_not.mp new]
    cases inRuntime with
    | true =>
      cases o.integration with
      | none => exact (by decide : State.new.Leads .starting)
      | some _ => exact (by decide : State.new.Leads .running)
    | false => exact (by decide : State.new.Leads .failed)

theorem leads_update (finished : Nat → Bool) (o : Outbox) (integration : Integration) :
    o.status.state.Leads (o.update finished integration).1.status.state := by
  unfold update
  split
  · exact .refl _
  · next starting =>
    rw [starting]
    exact (by decide : State.starting.Leads .running)
  · split
    · exact .refl _
    · exact .inl (congrArg Status.state (flush_status ..))
  · exact .refl _

/-- The outbox is stopping or has stopped. -/
def Halted (o : Outbox) : Prop := o.status.state = .stopping ∨ o.status.state = .terminated

theorem leads_beginStop (finished : Nat → Bool) (o : Outbox) :
    o.status.state.Leads (o.beginStop finished).2.1.status.state := by
  have stopping : ({ o with status := o.status.set .stopping }.beginFlush finished).2.1.status.state
      = .stopping :=
    congrArg Status.state (beginFlush_status ..)
  unfold beginStop
  split
  · next new =>
    rw [new]
    exact (by decide : State.new.Leads .terminated)
  · next starting =>
    rw [starting, stopping]
    decide
  · next running =>
    rw [running, stopping]
    decide
  · exact .refl _

/-- After a call to stop the outbox never runs again, whatever it was. -/
theorem isOver_beginStop (finished : Nat → Bool) (o : Outbox) :
    (o.beginStop finished).2.1.status.state.isOver = true := by
  have stopping : ({ o with status := o.status.set .stopping }.beginFlush finished).2.1.status.state
      = .stopping :=
    congrArg Status.state (beginFlush_status ..)
  unfold beginStop
  cases state : o.status.state with
  | new => rfl
  | starting | running => exact congrArg State.isOver stopping
  | stopping | terminated | failed => exact congrArg State.isOver state

theorem leads_endStop (h : o.Halted) : o.status.state.Leads o.endStop.1.status.state := by
  rcases h with h | h <;> rw [h]
  · exact (by decide : State.stopping.Leads .terminated)
  · exact .refl .terminated

namespace Halted

theorem ne_running (h : o.Halted) : o.status.state ≠ .running := by
  rcases h with h | h <;> rw [h] <;> decide

theorem of_leads {p : Outbox} (h : o.Halted) (leads : o.status.state.Leads p.status.state) :
    p.Halted := by
  -- The one edge from stopping goes to terminated, and from there none goes on.
  rcases h with h | h <;> rw [h] at leads <;> revert leads <;> unfold Halted <;>
    cases p.status.state <;> decide

/-- An outbox that gives a caller something to wait for is stopping from then on. -/
theorem of_beginStop {waiting : List Nat} (h : (o.beginStop finished).1 = some waiting) :
    (o.beginStop finished).2.1.Halted := by
  unfold beginStop at h ⊢
  split at h
  · exact absurd h (by simp)
  · exact .inl (congrArg Status.state (beginFlush_status ..))
  · exact .inl (congrArg Status.state (beginFlush_status ..))
  · exact absurd h (by simp)

end Halted

end Outbox

end Targeting.Platform
