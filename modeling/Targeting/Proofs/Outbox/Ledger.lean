import Targeting.Proofs.Outbox.Step
import Targeting.Proofs.Run

/-!
# No accepted event is lost

An outbox in good order keeps a ledger without writing it: what was handed over, and then what is
queued, is what was accepted, in the same order and each event under the configuration of its
acceptance. Every step adds to both sides alike, whatever the order of the steps.

## Main definitions

* `Outbox.Ready` — the outbox in good order
* `Outbox.admits`, `Outbox.admission?` — whether an event is accepted, and the entry that it makes
* `Outbox.Settles` — a step that keeps the ledger

## Main results

* `Settles.trans` — the ledger of two steps in a row
* `Ready.start`, `Ready.update`, `Ready.send`, `Ready.fire`, `Ready.beginFlush`, `Ready.beginStop`,
  `Ready.endStop` — the steps that keep the ledger
-/

namespace Targeting.Platform.Outbox

/-! ### The ledger -/

/-- An event with the configuration that it belongs to, if there is one. -/
abbrev Entry : Type := Event × Option Config

/-- The queued events with the configuration that they would be handed over with. -/
def entries (o : Outbox) : List Entry := o.queue.map fun event => (event, o.config?)

/-- The events of a batch with its configuration. -/
def entriesOf (h : Nat × Config × List Event) : List Entry :=
  h.2.2.map fun event => (event, some h.2.1)

/-- The events that some effects hand over, with the configuration of their batch. -/
def shipped (effects : List Effect) : List Entry := (handovers effects).flatMap entriesOf

/-- The events that some effects accept. -/
def acceptances (effects : List Effect) : List Event := effects.filterMap Effect.accepted?

theorem shipped_append (es fs : List Effect) :
    shipped (es ++ fs) = shipped es ++ shipped fs := by
  rw [shipped, handovers_append, List.flatMap_append]
  rfl

theorem acceptances_append (es fs : List Effect) :
    acceptances (es ++ fs) = acceptances es ++ acceptances fs :=
  List.filterMap_append

variable {settings : OutboxSettings} {finished : Nat → Bool} {o p : Outbox}

theorem entries_of_nil (h : o.queue = []) : o.entries = [] := by
  rw [entries, h, List.map_nil]

/-- What is queued is handed over as one batch, if it can be handed over at all. -/
theorem Deliverable.flatMap_inQueue (h : o.Deliverable) :
    o.inQueue.flatMap entriesOf = o.entries := by
  by_cases queued : o.queue = []
  · rw [inQueue_of_nil queued, entries_of_nil queued, List.flatMap_nil]
  · obtain ⟨-, config, integrated⟩ := h queued
    rw [inQueue_of_config queued integrated, List.flatMap_singleton, entries, integrated]
    rfl

theorem Deliverable.shipped_flush (h : o.Deliverable) :
    shipped (o.flush finished).2 = o.entries := by
  rw [shipped, h.flush_handovers, h.flatMap_inQueue]

theorem queue_ne_nil_of_mem_inQueue {batch : Nat × Config × List Event} (h : batch ∈ o.inQueue) :
    batch.2.2 ≠ [] := by
  unfold inQueue at h
  split at h
  · exact absurd h List.not_mem_nil
  · next queued =>
    obtain ⟨config, -, rfl⟩ := List.mem_map.mp h
    exact queued

/-! ### Good order -/

/-- An outbox in good order: one that is starting or running has something to run deliveries, one
that is running has a configuration, and only one that is running and whose project is integrated
has events in its queue. -/
structure Ready (o : Outbox) : Prop where
  started : o.status.state = .starting ∨ o.status.state = .running → o.hasRuntime = true
  configured : o.status.state = .running → o.integration.isSome = true
  queued : o.queue ≠ [] → o.status.state = .running ∧ ∃ config, o.config? = some config

namespace Ready

theorem initial : Ready {} where
  started h := absurd h (by decide)
  configured h := absurd h (by decide)
  queued h := absurd rfl h

theorem deliverable (h : o.Ready) : o.Deliverable := by
  intro queued
  obtain ⟨running, config⟩ := h.queued queued
  exact ⟨h.started (.inr running), config⟩

theorem queue_eq_nil (h : o.Ready) (idle : o.status.state ≠ .running) : o.queue = [] :=
  Decidable.byContradiction fun queued => idle (h.queued queued).1

/-- Any outbox with an empty queue is in good order if it has what its state asks for. -/
theorem of_queue_nil (queue : o.queue = [])
    (started : o.status.state = .starting ∨ o.status.state = .running → o.hasRuntime = true)
    (configured : o.status.state = .running → o.integration.isSome = true) : o.Ready :=
  ⟨started, configured, fun h => absurd queue h⟩

/-- Stopping or stopped, an outbox needs nothing but an empty queue. -/
theorem of_halted (queue : o.queue = [])
    (halted : o.status.state = .stopping ∨ o.status.state = .terminated) : o.Ready := by
  refine of_queue_nil queue ?_ ?_
  · intro active
    rcases halted with state | state <;> rw [state] at active <;> exact absurd active (by decide)
  · intro running
    rcases halted with state | state <;> rw [state] at running <;> exact absurd running (by decide)

theorem flush (h : o.Ready) : (o.flush finished).1.Ready := by
  refine of_queue_nil (flush_queue ..) ?_ ?_
  · rw [flush_status, flush_hasRuntime]
    exact h.started
  · rw [flush_status, flush_integration]
    exact h.configured

end Ready

/-! ### Acceptance -/

/-- Whether an event is accepted: the outbox is running, the project is integrated, the event has no
fault, and there is room in the queue. -/
def admits (settings : OutboxSettings) (o : Outbox) (event : Event) : Bool :=
  o.status.state = .running && o.config?.isSome && event.fault?.isNone
    && o.queue.length < settings.queueSize

/-- What is not refused is accepted. -/
theorem refusal?_eq_none_iff {event : Event} :
    o.refusal? settings event = none ↔ o.admits settings event = true := by
  unfold refusal? admits
  cases o.config? <;> cases event.fault? <;> by_cases running : o.status.state = .running <;>
    simp [running]

theorem of_admits {event : Event} (h : o.admits settings event = true) :
    o.status.state = .running ∧ o.config?.isSome = true := by
  simp only [admits, Bool.and_eq_true, decide_eq_true_eq] at h
  exact h.1.1

/-- The entry that an event makes when it is sent, if it is accepted. -/
def admission? (settings : OutboxSettings) (o : Outbox) (id : String) (event : Event) :
    Option Entry :=
  if o.admits settings event then some (prepared settings id event, o.config?) else none

theorem accept_of_full {event : Event}
    (full : settings.fullBatch ≤ (o.queue ++ [event]).length) :
    o.accept settings finished event = (({ o with queue := o.queue ++ [event] }.flush finished).1,
      .accepted event :: ({ o with queue := o.queue ++ [event] }.flush finished).2) := by
  rw [accept]
  simp only [full, if_true]

theorem accept_of_not_full {event : Event}
    (full : ¬ settings.fullBatch ≤ (o.queue ++ [event]).length) :
    o.accept settings finished event = ({ o with queue := o.queue ++ [event] }.arm.1,
      .accepted event :: { o with queue := o.queue ++ [event] }.arm.2) := by
  rw [accept]
  simp only [full, if_false]

/-! ### Steps that keep the ledger -/

/-- A step of an outbox keeps the ledger: what it hands over, and what is queued afterwards, is what
was queued before and what it admits. Nothing is handed over as an empty batch, and nothing is lost.
-/
structure Settles (o : Outbox) (admitted : List Entry) (effects : List Effect) (p : Outbox) :
    Prop where
  ready : p.Ready
  balance : shipped effects ++ p.entries = o.entries ++ admitted
  accepted : acceptances effects = admitted.map Prod.fst
  nonempty : ∀ batch ∈ handovers effects, batch.2.2 ≠ []
  lossless : ∀ e ∈ effects, e.isLoss = false

/-- Whether an effect leaves the ledger alone. -/
def Effect.isIdle (e : Effect) : Bool := e.handover?.isNone && e.accepted?.isNone && !e.isLoss

theorem Effect.isIdle_iff {e : Effect} :
    e.isIdle = true ↔ e.handover? = none ∧ e.accepted? = none ∧ e.isLoss = false := by
  simp [isIdle, and_assoc]

/-- Saying why an event is refused is no loss of what is queued. -/
theorem isIdle_of_refusal? {event : Event} {notice : Notice}
    (h : o.refusal? settings event = some notice) : Effect.isIdle (.said notice) = true := by
  have given {other : Notice} (idle : Effect.isIdle (.said other) = true)
      (same : some other = some notice) : Effect.isIdle (.said notice) = true :=
    Option.some.inj same ▸ idle
  unfold refusal? at h
  split at h
  · exact given rfl h
  · split at h
    · exact given rfl h
    · split at h
      · exact given rfl h
      · split at h
        · exact given rfl h
        · exact absurd h.symm (Option.some_ne_none notice)

namespace Settles

variable {q : Outbox} {admitted : List Entry} {effects more : List Effect}

/-- Two steps in a row. -/
theorem trans {admitted' : List Entry} {effects' : List Effect} (h : Settles o admitted effects q)
    (h' : Settles q admitted' effects' p) :
    Settles o (admitted ++ admitted') (effects ++ effects') p where
  ready := h'.ready
  balance := by
    rw [shipped_append, List.append_assoc, h'.balance, ← List.append_assoc, h.balance,
      List.append_assoc]
  accepted := by rw [acceptances_append, h.accepted, h'.accepted, List.map_append]
  nonempty := by
    rw [handovers_append, List.forall_mem_append]
    exact ⟨h.nonempty, h'.nonempty⟩
  lossless := List.forall_mem_append.mpr ⟨h.lossless, h'.lossless⟩

/-- Effects that leave the ledger alone may follow. -/
theorem append_idle (h : Settles o admitted effects p) (idle : ∀ e ∈ more, e.isIdle = true) :
    Settles o admitted (effects ++ more) p := by
  have idle e (he : e ∈ more) := Effect.isIdle_iff.mp (idle e he)
  -- The batches and the accepted events are filtered out of the effects, and here nothing is left.
  have kept : handovers (effects ++ more) = handovers effects := by
    rw [handovers_append, List.append_right_eq_self]
    exact List.filterMap_eq_nil_iff.mpr fun e he => (idle e he).1
  refine ⟨h.ready, ?_, ?_, ?_, ?_⟩
  · rw [shipped, kept]
    exact h.balance
  · rw [acceptances_append, ← h.accepted, List.append_right_eq_self]
    exact List.filterMap_eq_nil_iff.mpr fun e he => (idle e he).2.1
  · rw [kept]
    exact h.nonempty
  · rw [List.forall_mem_append]
    exact ⟨h.lossless, fun e he => (idle e he).2.2⟩

/-- A step that does nothing but change what the ledger does not show. -/
theorem of_idle (ready : p.Ready) (same : p.entries = o.entries)
    (idle : ∀ e ∈ effects, e.isIdle = true) : Settles o [] effects p := by
  have still : Settles o [] [] p :=
    ⟨ready, same.trans (List.append_nil _).symm, rfl, List.forall_mem_nil _, List.forall_mem_nil _⟩
  exact still.append_idle idle

/-- Nothing happens. -/
theorem refl (ready : o.Ready) : Settles o [] [] o :=
  of_idle ready rfl (List.forall_mem_nil _)

/-- Where nothing is queued, all but the effects is beside the point. -/
theorem of_empty (ready : p.Ready) (before : o.queue = []) (after : p.queue = [])
    (idle : ∀ e ∈ effects, e.isIdle = true) : Settles o [] effects p :=
  of_idle ready ((entries_of_nil after).trans (entries_of_nil before).symm) idle

/-- An event is accepted, and then the outbox does the rest. -/
theorem accepted_cons {event : Event} {config? : Option Config} (h : Settles q [] effects p)
    (same : q.entries = o.entries ++ [(event, config?)]) :
    Settles o [(event, config?)] (.accepted event :: effects) p where
  ready := h.ready
  balance := by
    rw [← same, ← List.append_nil q.entries]
    exact h.balance
  accepted := congrArg (event :: ·) h.accepted
  nonempty := h.nonempty
  lossless := List.forall_mem_cons.mpr ⟨rfl, h.lossless⟩

/-- A flush hands everything over. -/
theorem of_flush (h : q.Deliverable) (same : q.entries = o.entries) (ready : p.Ready)
    (queue : p.queue = []) : Settles o [] (q.flush finished).2 p where
  ready := ready
  balance := by rw [h.shipped_flush, entries_of_nil queue, same]
  accepted := h.flush_accepted
  nonempty := by
    rw [h.flush_handovers]
    exact fun _ => queue_ne_nil_of_mem_inQueue
  lossless := h.flush_lossless

end Settles

namespace Ready

variable (settings finished) (h : o.Ready)
include h

theorem start (inRuntime : Bool) :
    Settles o [] (o.start inRuntime).2.2 (o.start inRuntime).2.1 := by
  unfold Outbox.start
  split
  · exact .refl h
  · next new =>
    have queue : o.queue = [] := h.queue_eq_nil (by rw [Decidable.not_not.mp new]; decide)
    split
    · -- It runs at once only if there is a configuration already.
      refine .of_empty (.of_queue_nil queue (fun _ => rfl) ?_) queue queue (List.forall_mem_nil _)
      intro running
      cases configured : o.integration with
      | none => simp [configured] at running
      | some integration => rfl
    · refine .of_empty (.of_queue_nil queue ?_ ?_) queue queue (List.forall_mem_singleton.mpr rfl)
      · intro active
        exact absurd active (by simp)
      · intro running
        exact absurd running (by simp)

theorem update (integration : Integration) :
    Settles o [] (o.update finished integration).2 (o.update finished integration).1 := by
  unfold Outbox.update
  split
  · next new =>
    have queue : o.queue = [] := h.queue_eq_nil (by rw [new]; decide)
    have ready : { o with integration := some integration }.Ready :=
      .of_queue_nil queue h.started fun _ => rfl
    exact .of_empty ready queue queue (List.forall_mem_nil _)
  · next starting =>
    have queue : o.queue = [] := h.queue_eq_nil (by rw [starting]; decide)
    have ready : { o with
        integration := some integration, status := o.status.set .running }.Ready :=
      .of_queue_nil queue (fun _ => h.started (.inl starting)) fun _ => rfl
    exact .of_empty ready queue queue (List.forall_mem_nil _)
  · next running =>
    split
    · exact .refl h
    · -- The queue is handed over before the configuration changes, so no entry changes its own.
      have flushed : (o.flush finished).1.queue = [] := flush_queue ..
      refine .of_flush h.deliverable rfl (.of_queue_nil flushed ?_ fun _ => rfl) flushed
      intro
      exact (flush_hasRuntime ..).trans (h.started (.inr running))
  · exact .of_idle h rfl (List.forall_mem_singleton.mpr rfl)

theorem enqueue (running : o.status.state = .running) (integrated : o.config?.isSome = true)
    (event : Event) : { o with queue := o.queue ++ [event] }.Ready :=
  ⟨h.started, h.configured, fun _ => ⟨running, Option.isSome_iff_exists.mp integrated⟩⟩

theorem arm : Settles o [] o.arm.2 o.arm.1 := by
  unfold Outbox.arm
  split
  · exact .of_idle ⟨h.started, h.configured, h.queued⟩ rfl (List.forall_mem_singleton.mpr rfl)
  · exact .refl h

theorem accept (running : o.status.state = .running) (integrated : o.config?.isSome = true)
    (event : Event) :
    Settles o [(event, o.config?)] (o.accept settings finished event).2
      (o.accept settings finished event).1 := by
  have enqueued := h.enqueue running integrated event
  -- The event is queued before anything is handed over, so it goes into the batch that it fills.
  have longer : { o with queue := o.queue ++ [event] }.entries =
      o.entries ++ [(event, o.config?)] :=
    List.map_append
  by_cases full : settings.fullBatch ≤ (o.queue ++ [event]).length
  · rw [accept_of_full full]
    refine .accepted_cons ?_ longer
    exact .of_flush enqueued.deliverable rfl enqueued.flush (flush_queue ..)
  · rw [accept_of_not_full full]
    exact .accepted_cons enqueued.arm longer

/-- A refused event changes nothing, and what is said about it does not touch the ledger. -/
theorem send (id : String) (event : Event) :
    Settles o (o.admission? settings id event).toList (o.send settings finished id event).2
      (o.send settings finished id event).1 := by
  unfold Outbox.send admission?
  cases refused : o.refusal? settings event with
  | some notice =>
    -- Nothing is admitted, and the outbox stays as it is.
    have inadmissible : ¬ o.admits settings event = true := by
      rw [← refusal?_eq_none_iff, refused]
      exact Option.some_ne_none notice
    rw [if_neg inadmissible]
    exact .of_idle h rfl (List.forall_mem_singleton.mpr (isIdle_of_refusal? refused))
  | none =>
    have admitted := refusal?_eq_none_iff.mp refused
    rw [if_pos admitted]
    obtain ⟨running, integrated⟩ := of_admits admitted
    exact h.accept settings finished running integrated _

theorem fire (generation : Nat) :
    Settles o [] (o.fire finished generation).2 (o.fire finished generation).1 := by
  -- A late firing, of a timer that was cancelled, finds another generation and does nothing.
  have unset : { o with timer := none }.Ready := ⟨h.started, h.configured, h.queued⟩
  unfold Outbox.fire
  split
  · exact .of_flush unset.deliverable rfl unset.flush (flush_queue ..)
  · exact .refl h

theorem beginFlush :
    Settles o [] (o.beginFlush finished).2.2 (o.beginFlush finished).2.1 :=
  .of_flush h.deliverable rfl ⟨h.flush.started, h.flush.configured, h.flush.queued⟩ (flush_queue ..)

theorem beginStop : Settles o [] (o.beginStop finished).2.2 (o.beginStop finished).2.1 := by
  -- The status changes before the flush, but it is the runtime and the configuration that count.
  have stopping : Settles o []
      ({ o with status := o.status.set .stopping }.beginFlush finished).2.2
      ({ o with status := o.status.set .stopping }.beginFlush finished).2.1 :=
    .of_flush h.deliverable rfl
      (.of_halted (flush_queue ..) (.inl (congrArg Status.state (flush_status ..))))
      (flush_queue ..)
  unfold Outbox.beginStop
  split
  · next new =>
    have queue : o.queue = [] := h.queue_eq_nil (by rw [new]; decide)
    exact .of_empty (.of_halted queue (.inr rfl)) queue queue (List.forall_mem_nil _)
  · exact stopping
  · exact stopping
  · exact .refl h

theorem endStop (idle : o.status.state ≠ .running) : Settles o [] o.endStop.2 o.endStop.1 := by
  have queue := h.queue_eq_nil idle
  exact .of_empty (.of_halted queue (.inr rfl)) queue queue (List.forall_mem_singleton.mpr rfl)

end Ready

end Targeting.Platform.Outbox
