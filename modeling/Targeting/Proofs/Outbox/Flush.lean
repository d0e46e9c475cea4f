import Targeting.Platform.Outbox.Basic

/-!
# Emptying the queue of the outbox

Everything that leaves the queue leaves it by a flush. A flush loses events only where there is no
configuration or nothing to run a delivery, and an outbox that is *deliverable* has both as long as
anything is queued. Here stands what a flush does to each part of the outbox, so that nothing else
has to open it.

## Main definitions

* `Outbox.Effect.handover?`, `Outbox.Effect.accepted?` — what an effect says about events
* `Outbox.Deliverable` — what is queued could be handed over
* `Outbox.batches` — the numbers of the batches in some effects

## Main results

* `Outbox.Deliverable.flush_eq` — the outbox after a flush, and its effects
* `Outbox.Deliverable.flush_handovers` — what a flush hands over
-/

namespace Targeting.Platform.Outbox

/-! ### What effects say -/

namespace Effect

/-- The batch that an effect hands over: its number, its configuration and its events. -/
def handover? : Effect → Option (Nat × Config × List Event)
  | handedOver batch config events => some (batch, config, events)
  | _ => none

/-- The event that an effect accepts. -/
def accepted? : Effect → Option Event
  | accepted event => some event
  | _ => none

/-- Whether an effect loses queued events. -/
def isLoss : Effect → Bool
  | said (.droppedUnintegrated _) => true
  | said (.droppedUnstarted _) => true
  | _ => false

end Effect

/-- The batches that some effects hand over. -/
def handovers (effects : List Effect) : List (Nat × Config × List Event) :=
  effects.filterMap Effect.handover?

/-- The numbers of the batches that some effects hand over. -/
def batches (effects : List Effect) : List Nat := (handovers effects).map Prod.fst

@[simp] theorem handovers_append (es fs : List Effect) :
    handovers (es ++ fs) = handovers es ++ handovers fs :=
  List.filterMap_append

variable {o : Outbox} {finished : Nat → Bool}

/-! ### Cancelling the timer and forgetting deliveries -/

theorem disarm_fst (o : Outbox) :
    o.disarm.1 = { o with
      timer := none
      generation := if o.timer.isSome then o.generation + 1 else o.generation } := by
  unfold disarm
  split <;> rename_i h <;> simp [h]
  rw [← h]

theorem disarm_snd (o : Outbox) : o.disarm.2 = o.timer.toList.map .cancelled := by
  unfold disarm
  split <;> rename_i h <;> simp [h]

/-- The outbox in a flush, before its queue is looked at. -/
def readied (o : Outbox) (finished : Nat → Bool) : Outbox := o.disarm.1.forget finished

theorem readied_eq (o : Outbox) (finished : Nat → Bool) :
    o.readied finished = { o with
      timer := none
      generation := if o.timer.isSome then o.generation + 1 else o.generation
      deliveries := o.deliveries.filter (!finished ·) } := by
  rw [readied, disarm_fst, forget]

theorem flush_fst (o : Outbox) : (o.flush finished).1 = (o.readied finished).empty.1 := rfl

theorem flush_snd (o : Outbox) :
    (o.flush finished).2 = o.disarm.2 ++ (o.readied finished).empty.2 := rfl

/-! ### Emptying the queue -/

/-- What is queued could be handed over. -/
def Deliverable (o : Outbox) : Prop :=
  o.queue ≠ [] → o.hasRuntime = true ∧ ∃ config, o.config? = some config

theorem empty_of_nil (h : o.queue = []) : o.empty = (o, []) := by
  simp [empty, h]

theorem empty_of_deliverable {config : Config} (queued : o.queue ≠ [])
    (started : o.hasRuntime = true) (integrated : o.config? = some config) :
    o.empty = ({ o with
      queue := []
      deliveries := o.deliveries ++ [o.handedOver]
      handedOver := o.handedOver + 1 }, [.handedOver o.handedOver config o.queue]) := by
  simp [empty, handOver, queued, started, integrated]

/-- Whether or not events are lost, only the queue and the deliveries change. -/
theorem exists_empty_fst (o : Outbox) : ∃ deliveries handedOver,
    o.empty.1 = { o with queue := [], deliveries, handedOver } := by
  -- Nothing is queued, the events are lost in one of two ways, or they are handed over.
  by_cases queued : o.queue = []
  · rw [empty_of_nil queued]
    exact ⟨o.deliveries, o.handedOver, by rw [← queued]⟩
  · cases integrated : o.config? with
    | none => exact ⟨o.deliveries, o.handedOver, by simp [empty, queued, integrated]⟩
    | some config =>
      cases started : o.hasRuntime with
      | true => exact ⟨_, _, by rw [empty_of_deliverable queued started integrated, started]⟩
      | false => exact ⟨o.deliveries, o.handedOver, by simp [empty, queued, integrated, started]⟩

/-! ### The parts that a flush leaves alone -/

theorem exists_flush_fst (o : Outbox) (finished : Nat → Bool) :
    ∃ generation deliveries handedOver, (o.flush finished).1 =
      { o with queue := [], timer := none, generation, deliveries, handedOver } := by
  obtain ⟨deliveries, handedOver, h⟩ := exists_empty_fst (o.readied finished)
  rw [flush_fst, h, readied_eq]
  exact ⟨_, _, _, rfl⟩

section Flush

variable (o : Outbox) (finished : Nat → Bool)

@[simp] theorem flush_status : (o.flush finished).1.status = o.status := by
  obtain ⟨_, _, _, h⟩ := exists_flush_fst o finished
  rw [h]

@[simp] theorem flush_integration : (o.flush finished).1.integration = o.integration := by
  obtain ⟨_, _, _, h⟩ := exists_flush_fst o finished
  rw [h]

@[simp] theorem flush_hasRuntime : (o.flush finished).1.hasRuntime = o.hasRuntime := by
  obtain ⟨_, _, _, h⟩ := exists_flush_fst o finished
  rw [h]

@[simp] theorem flush_queue : (o.flush finished).1.queue = [] := by
  obtain ⟨_, _, _, h⟩ := exists_flush_fst o finished
  rw [h]

@[simp] theorem flush_timer : (o.flush finished).1.timer = none := by
  obtain ⟨_, _, _, h⟩ := exists_flush_fst o finished
  rw [h]

end Flush

/-! ### What a flush hands over -/

/-- The batch that is handed over when the queue is emptied: all that is queued, or none if nothing
is. -/
def inQueue (o : Outbox) : List (Nat × Config × List Event) :=
  if o.queue = [] then [] else o.config?.toList.map fun config => (o.handedOver, config, o.queue)

/-- The effect of handing over a batch. -/
def Effect.ofHandover (h : Nat × Config × List Event) : Effect := .handedOver h.1 h.2.1 h.2.2

theorem handovers_ofHandover (hs : List (Nat × Config × List Event)) :
    handovers (hs.map .ofHandover) = hs := by
  rw [handovers, List.filterMap_map]
  exact List.filterMap_some

theorem inQueue_of_nil (h : o.queue = []) : o.inQueue = [] := if_pos h

theorem inQueue_of_config {config : Config} (queued : o.queue ≠ [])
    (integrated : o.config? = some config) : o.inQueue = [(o.handedOver, config, o.queue)] := by
  simp [inQueue, queued, integrated]

theorem inQueue_readied (o : Outbox) (finished : Nat → Bool) :
    (o.readied finished).inQueue = o.inQueue := by
  rw [readied_eq]
  rfl

namespace Deliverable

variable (h : o.Deliverable)
include h

theorem empty_eq : o.empty = ({ o with
    queue := []
    deliveries := o.deliveries ++ o.inQueue.map Prod.fst
    handedOver := o.handedOver + o.inQueue.length }, o.inQueue.map .ofHandover) := by
  by_cases queued : o.queue = []
  · rw [empty_of_nil queued, inQueue_of_nil queued, List.map_nil, List.map_nil, List.append_nil,
      ← queued]
    rfl
  · obtain ⟨started, config, integrated⟩ := h queued
    rw [empty_of_deliverable queued started integrated, inQueue_of_config queued integrated]
    rfl

theorem readied : (o.readied finished).Deliverable := by
  rw [readied_eq]
  exact h

theorem flush_eq : o.flush finished = ({ o with
    queue := []
    timer := none
    generation := if o.timer.isSome then o.generation + 1 else o.generation
    deliveries := o.deliveries.filter (!finished ·) ++ o.inQueue.map Prod.fst
    handedOver := o.handedOver + o.inQueue.length },
    o.timer.toList.map .cancelled ++ o.inQueue.map .ofHandover) := by
  -- Neither the timer nor the forgotten deliveries have a part in what is handed over.
  apply Prod.ext
  · rw [flush_fst, h.readied.empty_eq, inQueue_readied, readied_eq]
  · rw [flush_snd, h.readied.empty_eq, inQueue_readied, disarm_snd]

theorem flush_handovers : handovers (o.flush finished).2 = o.inQueue := by
  rw [h.flush_eq, handovers_append, handovers_ofHandover]
  cases o.timer <;> rfl

theorem flush_accepted : (o.flush finished).2.filterMap Effect.accepted? = [] := by
  rw [h.flush_eq, List.filterMap_append, List.filterMap_map]
  cases o.timer <;> simp [Function.comp_def, Effect.accepted?, Effect.ofHandover]

theorem flush_lossless : ∀ e ∈ (o.flush finished).2, e.isLoss = false := by
  intro e he
  rw [h.flush_eq] at he
  rcases List.mem_append.mp he with he | he
  · obtain ⟨generation, -, rfl⟩ := List.mem_map.mp he
    rfl
  · obtain ⟨handover, -, rfl⟩ := List.mem_map.mp he
    rfl

end Deliverable

end Targeting.Platform.Outbox
