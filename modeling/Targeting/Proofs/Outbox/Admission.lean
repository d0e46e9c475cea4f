import Targeting.Proofs.Outbox.Pacing

/-!
# Which events are accepted

An event has to pass a number of checks: the outbox has to be running, the project integrated, the event
free of faults, and there has to be room in the queue. They are made one after another, and the first one
that fails is the only one about which something is said. It is also all that happens: until every check
is passed nothing is changed, and so an event that is refused leaves no trace.

## Main definitions

* `Outbox.checks`, `Event.checks` — the checks in their order, with what is said where one fails
* `Outbox.IsFirstFailing` — what is said about the first check that fails
* `Outbox.Admissible` — an event that passes all checks, said without them

## Main results

* `Outbox.refusal?_eq` — the reason for refusing an event is the first check that fails
* `Outbox.admissible_iff` — the events without such a reason are those that pass all checks
* `Outbox.System.admission_of_run` — which events are accepted after a run, and what becomes of all
  others
-/

namespace Targeting.Platform

/-! ### The checks -/

/-- The checks of an event alone, with the fault where one fails. -/
def Event.checks (event : Event) : List (Bool × Event.Fault) :=
  [(!event.identifiers.isEmpty, .noIdentifiers), (!event.action.isEmpty, .emptyAction)]
    ++ event.data.map fun (name, v) => (v.isScalar, .unfitData name)

namespace Outbox

/-- The checks that an event has to pass, in their order, with what is said where one fails. -/
def checks (settings : OutboxSettings) (o : Outbox) (event : Event) : List (Bool × Notice) :=
  [(decide (o.status.state = .running), Notice.notRunning o.status.state event.action),
    (o.config?.isSome, Notice.notIntegrated event.action)]
    ++ event.checks.map (Prod.map id (Notice.faulty · event.action))
    ++ [(decide (o.queue.length < settings.queueSize), Notice.queueFull settings.queueSize)]

/-- What belongs to the first check that fails, if there is one. -/
def firstFailing? {α : Type} (checks : List (Bool × α)) : Option α :=
  (checks.find? (!·.1)).map Prod.snd

/-- All checks are passed up to one that fails, and this is what belongs to it. -/
def IsFirstFailing {α : Type} (checks : List (Bool × α)) (said : α) : Prop :=
  ∃ before after, checks = before ++ (false, said) :: after ∧ ∀ check ∈ before, check.1 = true

section Checks

variable {α β : Type} {checks more : List (Bool × α)} {said : α}

theorem firstFailing?_cons (passed : Bool) (said : α) (checks : List (Bool × α)) :
    firstFailing? ((passed, said) :: checks) = if passed then firstFailing? checks else some said := by
  cases passed <;> rfl

theorem firstFailing?_append : firstFailing? (checks ++ more)
    = (firstFailing? checks).or (firstFailing? more) := by
  rw [firstFailing?, firstFailing?, firstFailing?, List.find?_append, Option.map_or]

theorem firstFailing?_map (f : α → β) :
    firstFailing? (checks.map (Prod.map id f)) = (firstFailing? checks).map f := by
  rw [firstFailing?, firstFailing?, List.find?_map, Option.map_map, Option.map_map]
  rfl

theorem firstFailing?_eq_none_iff : firstFailing? checks = none ↔ ∀ check ∈ checks, check.1 = true := by
  simp [firstFailing?]

theorem firstFailing?_eq_some_iff : firstFailing? checks = some said ↔ IsFirstFailing checks said := by
  constructor
  · intro h
    obtain ⟨⟨passed, _⟩, found, rfl⟩ := Option.map_eq_some_iff.mp h
    obtain ⟨fails, before, after, parts, passes⟩ := List.find?_eq_some_iff_append.mp found
    refine ⟨before, after, ?_, by simpa using passes⟩
    obtain rfl : passed = false := by simpa using fails
    exact parts
  · rintro ⟨before, after, rfl, passes⟩
    rw [firstFailing?_append, firstFailing?_eq_none_iff.mpr passes, Option.none_or,
      firstFailing?_cons]
    rfl

end Checks

variable {settings : OutboxSettings} {o : Outbox} {event : Event}

/-- The fault of an event is the first one of its checks that fails. -/
theorem fault?_eq (event : Event) : event.fault? = firstFailing? event.checks := by
  have data : firstFailing? (event.data.map fun (name, v) => (v.isScalar, Event.Fault.unfitData name))
      = (event.data.find? fun (_, v) => !v.isScalar).map fun (name, _) => .unfitData name := by
    rw [firstFailing?, List.find?_map, Option.map_map]
    rfl
  rw [Event.checks, List.cons_append, List.cons_append, List.nil_append, firstFailing?_cons,
    firstFailing?_cons, data, Event.fault?]
  cases event.identifiers.isEmpty <;> cases event.action.isEmpty <;> rfl

/-- The reason for refusing an event is the first check that fails. -/
theorem refusal?_eq (settings : OutboxSettings) (o : Outbox) (event : Event) :
    o.refusal? settings event = firstFailing? (o.checks settings event) := by
  rw [checks, firstFailing?_append, List.cons_append, List.cons_append, List.nil_append,
    firstFailing?_cons, firstFailing?_cons, firstFailing?_map, ← fault?_eq, firstFailing?_cons, refusal?]
  -- From here on both sides ask the same questions in the same order.
  by_cases running : o.status.state = .running
  · cases o.config? with
    | none => simp [running]
    | some config =>
      cases event.fault? with
      | some fault => simp [running]
      | none =>
        by_cases room : o.queue.length < settings.queueSize
        · simp [running, room, Nat.not_le.mpr room, firstFailing?]
        · simp [running, room, Nat.not_lt.mp room]
  · simp [running]

/-! ### Events that pass them -/

/-- An event that is accepted: the outbox is running and the project integrated, the event has an
identifier and an action, all its data are scalars, and there is room in the queue. -/
structure Admissible (settings : OutboxSettings) (o : Outbox) (event : Event) : Prop where
  running : o.status.state = .running
  integrated : ∃ config, o.integration = some (.integrated config)
  identified : event.identifiers ≠ []
  named : event.action ≠ ""
  scalar : ∀ datum ∈ event.data, datum.2.isScalar = true
  room : o.queue.length < settings.queueSize

theorem config?_isSome_iff :
    o.config?.isSome = true ↔ ∃ config, o.integration = some (.integrated config) := by
  cases integration : o.integration with
  | none => simp [config?, integration]
  | some i => cases i <;> simp [config?, integration, Integration.config?]

/-- Exactly the events that pass all checks are not refused. -/
theorem admissible_iff : Admissible settings o event ↔ o.refusal? settings event = none := by
  rw [refusal?_eq, firstFailing?_eq_none_iff]
  simp only [checks, Event.checks, List.forall_mem_append, List.forall_mem_cons, List.forall_mem_map,
    List.not_mem_nil, false_implies, implies_true, and_true, Prod.map_fst, id_eq, decide_eq_true_eq,
    config?_isSome_iff, Bool.not_eq_true', List.isEmpty_eq_false_iff, String.isEmpty_eq_false_iff]
  constructor
  · intro h
    exact ⟨⟨⟨h.running, h.integrated⟩, ⟨h.identified, h.named⟩, h.scalar⟩, h.room⟩
  · rintro ⟨⟨⟨running, integrated⟩, ⟨identified, named⟩, scalar⟩, room⟩
    exact ⟨running, integrated, identified, named, scalar, room⟩

/-! ### Sending -/

namespace System

variable {s : System}

/-- An event that is refused changes nothing, and the reason is all that is said. -/
theorem next?_send_of_refused (id : String) {notice : Notice}
    (refused : s.outbox.refusal? s.settings event = some notice) :
    s.next? (.send id event) = some (s, [.effect (.said notice)]) := by
  have sent : s.outbox.send s.settings s.isFinished id event = (s.outbox, [.said notice]) := by
    rw [send, refused]
  have step : s.next? (.send id event)
      = some (s.applied (s.outbox.send s.settings s.isFinished id event).1
          (s.outbox.send s.settings s.isFinished id event).2) := rfl
  rw [step, sent]
  rfl

/-- An event that passes all checks is accepted, and it is queued behind what was queued before or handed
over with it. -/
theorem exists_next?_send (id : String) (ordered : s.Ordered)
    (h : Admissible s.settings s.outbox event) :
    ∃ t reports, s.next? (.send id event) = some (t, reports) ∧
      acceptances (effectsOf reports) = [prepared s.settings id event] ∧
      shipped (effectsOf reports) ++ t.outbox.entries
        = s.outbox.entries ++ [(prepared s.settings id event, s.outbox.config?)] := by
  -- The balance of a send depends on what it admits, and a fit event is admitted.
  have settles := ordered.ready.send s.settings s.isFinished id event
  have admitted : s.outbox.admission? s.settings id event
      = some (prepared s.settings id event, s.outbox.config?) :=
    if_pos (refusal?_eq_none_iff.mp (admissible_iff.mp h))
  rw [admitted] at settles
  let sent := s.outbox.send s.settings s.isFinished id event
  refine ⟨(s.applied sent.1 sent.2).1, sent.2.map .effect, rfl, ?_⟩
  rw [effectsOf_map, applied_outbox]
  exact ⟨settles.accepted, settles.balance⟩

/-- After any run, an event that is sent is accepted if and only if it passes all checks. It is then
queued in the form in which it will be sent, behind what was queued before, or handed over with it. An
event that is not accepted leaves everything as it is, and what is said is what belongs to the first
check that fails. -/
theorem admission_of_run (settings : OutboxSettings) (labels : List Label) (id : String)
    (event : Event) :
    let s := Run.final next? { settings } labels
    let queued := prepared settings id event
    ∃ t reports, s.next? (.send id event) = some (t, reports) ∧
      (acceptances (effectsOf reports) ≠ [] ↔ Admissible settings s.outbox event) ∧
      (Admissible settings s.outbox event →
        acceptances (effectsOf reports) = [queued] ∧
        shipped (effectsOf reports) ++ t.outbox.entries
          = s.outbox.entries ++ [(queued, s.outbox.config?)]) ∧
      (¬ Admissible settings s.outbox event →
        t = s ∧ ∃ notice, reports = [.effect (.said notice)] ∧
          IsFirstFailing (s.outbox.checks settings event) notice) := by
  intro s queued
  have h := punctual_of_run settings labels
  have settled : s.settings = settings := h.settled
  -- Either the event passes all checks, or the first one that fails is the reason for refusing it.
  cases refused : s.outbox.refusal? settings event with
  | none =>
    have admissible := admissible_iff.mpr refused
    obtain ⟨t, reports, step, accepted, balance⟩ :=
      exists_next?_send id h.ordered (settled.symm ▸ admissible)
    rw [settled] at accepted balance
    refine ⟨t, reports, step, ?_, fun _ => ⟨accepted, balance⟩, fun other => absurd admissible other⟩
    rw [accepted]
    exact iff_of_true (List.cons_ne_nil _ _) admissible
  | some notice =>
    have inadmissible : ¬ Admissible settings s.outbox event := by
      rw [admissible_iff, refused]
      exact Option.some_ne_none notice
    have first : IsFirstFailing (s.outbox.checks settings event) notice := by
      rw [← firstFailing?_eq_some_iff, ← refusal?_eq, refused]
    refine ⟨s, _, next?_send_of_refused id (settled.symm ▸ refused), ?_,
      fun admissible => absurd admissible inadmissible, fun _ => ⟨rfl, notice, rfl, first⟩⟩
    exact iff_of_false (fun accepted => accepted rfl) inadmissible

end System

end Outbox

end Targeting.Platform
