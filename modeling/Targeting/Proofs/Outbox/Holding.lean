import Mathlib.Data.List.Nodup
import Mathlib.Data.List.Perm.Subperm
import Targeting.Proofs.Outbox.Tracking

/-!
# Who has to look at a delivery

A delivery that was begun is *held* until somebody looks at it: with the outbox, or by the one caller
that waits for it. It is never held twice, so nobody looks at it a second time. An outbox that does
not run holds nothing.

## Main definitions

* `System.held` — the deliveries that are held
* `System.subject?` — the delivery that a choice is about
* `System.HeldOnce` — no delivery is held twice
* `System.Passes` — a step that leaves all deliveries as they are

## Main results

* `System.HeldOnce.passes` — a choice that is about no delivery leaves all of them as they are
* `System.HeldOnce.next`, `System.heldOnce_final` — every step, and so every run, holds each delivery
  once
-/

open scoped List

namespace Targeting.Platform.Outbox

/-! ### An outbox that does not run -/

section Idle

variable {finished : Nat → Bool} {o : Outbox} {effects : List Effect} {held : List Nat} {count : Nat}

theorem start_of_running (running : o.status.state = .running) (inRuntime : Bool) :
    (o.start inRuntime).2.1 = o := by
  simp [start, running]

theorem update_status_of_running (running : o.status.state = .running) (integration : Integration) :
    (o.update finished integration).1.status = o.status := by
  simp only [update, running]
  split
  · rfl
  · exact flush_status ..

/-- An outbox that does not run hands nothing over, so one that holds nothing goes on so. -/
theorem Tracks.held_eq_nil (tracks : Tracks finished o effects held count)
    (idle : o.status.state ≠ .running) (none : o.deliveries = []) : held = [] := by
  have numbered := tracks.numbered
  rw [tracks.idle idle, List.append_right_eq_self] at numbered
  have within := tracks.within
  rw [none, numbered] at within
  exact List.sublist_nil.mp within

end Idle

namespace System

variable {s t : System} {c : Label} {reports : List Report} {o : Outbox} {effects : List Effect}
  {n batch : Nat} {caller : Caller}

/-! ### Numbers that are told apart -/

section Distinct

variable {α : Type} {xs : List (Nat × α)} {x : α}

theorem replace_of_not_mem (absent : n ∉ xs.map Prod.fst) : replace xs n x = xs := by
  rw [replace]
  refine (List.map_congr_left fun entry he => ?_).trans (List.map_id xs)
  have other : entry.1 ≠ n := by
    rintro rfl
    exact absent (List.mem_map_of_mem he)
  exact if_neg other

theorem without_of_not_mem (absent : n ∉ xs.map Prod.fst) : without xs n = xs := by
  refine List.filter_eq_self.mpr fun entry he => bne_iff_ne.mpr ?_
  rintro rfl
  exact absent (List.mem_map_of_mem he)

/-- Where no number stands twice, a list falls apart around what is found under one of them. -/
theorem exists_split (distinct : (xs.map Prod.fst).Nodup) (found : xs.lookup n = some x) :
    ∃ before after, xs = before ++ (n, x) :: after ∧
      (∀ y, replace xs n y = before ++ (n, y) :: after) ∧ without xs n = before ++ after := by
  obtain ⟨before, after, rfl, -⟩ := List.lookup_eq_some_iff.mp found
  rw [List.map_append, List.map_cons] at distinct
  obtain ⟨early, late⟩ := not_or.mp
    (mt List.mem_append.mpr (List.nodup_cons.mp (List.nodup_middle.mp distinct)).1)
  refine ⟨before, after, rfl, fun y => ?_, ?_⟩
  · have parts : replace (before ++ (n, x) :: after) n y
        = replace before n y ++ (n, y) :: replace after n y := by
      simp [replace]
    rw [parts, replace_of_not_mem early, replace_of_not_mem late]
  · have parts : without (before ++ (n, x) :: after) n = without before n ++ without after n := by
      simp [without]
    rw [parts, without_of_not_mem early, without_of_not_mem late]

end Distinct

/-! ### Deliveries that are held -/

/-- The deliveries that callers wait for. -/
def awaited (callers : List (Nat × Caller)) : List Nat := callers.flatMap (·.2.waiting)

/-- The deliveries that are held, with the outbox or by a caller. -/
def held (s : System) : List Nat := s.outbox.deliveries ++ awaited s.callers

theorem mem_awaited {callers : List (Nat × Caller)} :
    batch ∈ awaited callers ↔ ∃ caller ∈ callers, batch ∈ caller.2.waiting :=
  List.mem_flatMap

theorem mem_held : batch ∈ s.held ↔ batch ∈ s.outbox.deliveries ∨ batch ∈ awaited s.callers :=
  List.mem_append

theorem Tracked.lt_of_mem_held (h : s.Tracked) (hb : batch ∈ s.held) :
    batch < s.outbox.handedOver := by
  rcases mem_held.mp hb with hb | hb
  · exact h.known batch hb
  · obtain ⟨caller, hc, hb⟩ := mem_awaited.mp hb
    exact (h.awaited caller hc batch hb).1

/-- A delivery under way is held. -/
theorem Tracked.mem_held (h : s.Tracked) (begun : batch < s.outbox.handedOver)
    (active : s.isFinished batch = false) : batch ∈ s.held := by
  rcases h.kept batch begun with ended | kept | ⟨n, caller, found, hb⟩
  · rw [active] at ended
    exact absurd ended Bool.false_ne_true
  · exact System.mem_held.mpr (.inl kept)
  · exact System.mem_held.mpr (.inr (mem_awaited.mpr ⟨(n, caller), mem_of_lookup found, hb⟩))

theorem Tracked.lt_of_progress? (h : s.Tracked) {progress : Progress}
    (known : s.progress? batch = some progress) : batch < s.outbox.handedOver := by
  rw [← List.mem_range, ← h.numbered]
  exact List.mem_map_of_mem (mem_of_lookup known)

/-- The delivery that a choice is about: that of an attempt, or the one that a caller looks at. -/
def subject? (s : System) : Label → Option Nat
  | .attempt batch _ _ => some batch
  | .resume n => (s.callers.lookup n).bind fun caller => caller.waiting.head?
  | _ => none

/-! ### Steps that are about no delivery -/

/-- A step that leaves all deliveries as they are: what callers wait for stays held, and what is held
afterwards was held before or is new. -/
structure Passes (s t : System) : Prop where
  progress : ∀ batch progress, s.progress? batch = some progress → t.progress? batch = some progress
  finished : ∀ batch, t.isFinished batch = s.isFinished batch
  awaited : ∀ batch ∈ awaited s.callers, batch ∈ t.held
  held : ∃ fresh, t.held <+~ s.held ++ fresh ∧ fresh.Nodup ∧
    ∀ batch ∈ fresh, s.outbox.handedOver ≤ batch

namespace Passes

theorem of_held (same : t.deliveries = s.deliveries) (held : t.held = s.held) : Passes s t where
  progress batch progress known := by rw [← known, progress?, progress?, same]
  finished := isFinished_congr same
  awaited batch hb := held ▸ mem_held.mpr (.inr hb)
  held := ⟨[], by rw [held, List.append_nil], List.nodup_nil, List.forall_mem_nil _⟩

theorem mem_held_of_mem (h : Passes s t) (begun : batch < s.outbox.handedOver)
    (hb : batch ∈ t.held) : batch ∈ s.held := by
  obtain ⟨fresh, within, -, later⟩ := h.held
  refine (List.mem_append.mp (within.subset hb)).resolve_right fun hf => ?_
  exact Nat.not_lt.mpr (later batch hf) begun

theorem nodup_held (h : Passes s t) (tracked : s.Tracked) (once : s.held.Nodup) :
    t.held.Nodup := by
  obtain ⟨fresh, ⟨kept, same, within⟩, distinct, later⟩ := h.held
  -- What is new has a number that nothing had before.
  have apart : (s.held ++ fresh).Nodup := by
    refine List.nodup_append.mpr ⟨once, distinct, fun old ho new hn eq => ?_⟩
    exact Nat.not_lt.mpr (eq ▸ later new hn) (tracked.lt_of_mem_held ho)
  exact same.nodup_iff.mp (within.nodup apart)

end Passes

theorem nodup_batches {finished : Nat → Bool} {held : List Nat} {count : Nat}
    (tracks : Tracks finished o effects held count) : (batches effects).Nodup :=
  (List.nodup_append.mp (tracks.numbered ▸ List.nodup_range)).2.1

theorem progress?_applied {progress : Progress} (known : s.progress? batch = some progress) :
    (s.applied o effects).1.progress? batch = some progress := by
  rw [progress?] at known ⊢
  rw [applied_deliveries, List.lookup_append, known, Option.some_or]

/-- A step of the outbox that leaves what it holds with the outbox. -/
theorem passes_applied
    (tracks : Tracks s.isFinished s.outbox effects o.deliveries o.handedOver) :
    Passes s (s.applied o effects).1 where
  progress _ _ := progress?_applied
  finished := isFinished_applied s o effects
  awaited batch hb := mem_held.mpr (.inr (by rwa [applied_callers]))
  held := by
    refine ⟨batches effects, ?_, nodup_batches tracks, fun _ => tracks.handedOver_le_of_mem⟩
    rw [held, held, applied_outbox, applied_callers]
    have within : o.deliveries ++ awaited s.callers
        <+ (s.outbox.deliveries ++ batches effects) ++ awaited s.callers :=
      tracks.within.append (.refl _)
    have same : (s.outbox.deliveries ++ batches effects) ++ awaited s.callers
        ~ (s.outbox.deliveries ++ awaited s.callers) ++ batches effects := by
      rw [List.append_assoc, List.append_assoc]
      exact List.perm_append_comm.append_left _
    exact within.subperm.trans same.subperm

/-- A step of the outbox that gives what it holds to a caller. -/
theorem passes_withCaller
    (tracks : Tracks s.isFinished s.outbox effects caller.waiting o.handedOver)
    (emptied : o.deliveries = []) : Passes s ((s.applied o effects).1.withCaller n caller) where
  progress _ _ := progress?_applied
  finished batch := by rw [isFinished_congr (withCaller_deliveries ..), isFinished_applied]
  awaited batch hb := by
    refine mem_held.mpr (.inr ?_)
    rw [withCaller_callers, applied_callers, awaited, List.flatMap_append]
    exact List.mem_append_left _ hb
  held := by
    refine ⟨batches effects, ?_, nodup_batches tracks, fun _ => tracks.handedOver_le_of_mem⟩
    rw [held, held, withCaller_outbox, withCaller_callers, applied_outbox, applied_callers, emptied,
      awaited, List.flatMap_append, List.flatMap_singleton, List.nil_append]
    have within : awaited s.callers ++ caller.waiting
        <+ awaited s.callers ++ (s.outbox.deliveries ++ batches effects) :=
      (List.Sublist.refl _).append tracks.within
    have same : awaited s.callers ++ (s.outbox.deliveries ++ batches effects)
        ~ (s.outbox.deliveries ++ awaited s.callers) ++ batches effects := by
      rw [← List.append_assoc]
      exact List.perm_append_comm.append_right _
    exact within.subperm.trans same.subperm

/-! ### Callers that go on or leave -/

/-- A caller that goes on gives up the delivery that it has looked at. -/
theorem perm_held_look {first : Nat} {rest : List Nat}
    (distinct : (s.callers.map Prod.fst).Nodup) (found : s.callers.lookup n = some caller)
    (waiting : caller.waiting = first :: rest) :
    s.held ~ first :: { s with
      callers := replace s.callers n { caller with waiting := rest } }.held := by
  obtain ⟨before, after, split, replaced, -⟩ := exists_split distinct found
  rw [held, held, replaced, split]
  simp only [awaited, List.flatMap_append, List.flatMap_cons, waiting, List.cons_append,
    ← List.append_assoc]
  rw [List.append_assoc _ rest]
  exact List.perm_middle

/-- A caller that leaves has nothing to give up. -/
theorem awaited_without (distinct : (s.callers.map Prod.fst).Nodup)
    (found : s.callers.lookup n = some caller) (waiting : caller.waiting = []) :
    awaited (without s.callers n) = awaited s.callers := by
  obtain ⟨before, after, split, -, left⟩ := exists_split distinct found
  rw [left, split]
  simp only [awaited, List.flatMap_append, List.flatMap_cons, waiting, List.nil_append]

/-! ### Every delivery is held once -/

/-- No delivery is held twice, no two callers have one number, and an outbox that does not run holds
nothing. -/
structure HeldOnce (s : System) : Prop where
  tracked : s.Tracked
  once : s.held.Nodup
  distinct : (s.callers.map Prod.fst).Nodup
  idle : s.outbox.status.state ≠ .running → s.outbox.deliveries = []

namespace HeldOnce

theorem initial (settings : OutboxSettings) : HeldOnce { settings } where
  tracked := .initial settings
  once := List.nodup_nil
  distinct := List.nodup_nil
  idle _ := rfl

/-- A choice that is about no delivery leaves all of them as they are. -/
theorem passes (h : s.HeldOnce) (step : s.Moves c t reports) (none : s.subject? c = none) :
    Passes s t := by
  have ready := h.tracked.ordered.ready
  cases step with
  | start inRuntime => exact passes_applied (tracks_start s.isFinished s.outbox inRuntime)
  | update integration => exact passes_applied (ready.tracks_update s.isFinished integration)
  | send id event => exact passes_applied (ready.tracks_send s.settings s.isFinished id event)
  | flush => exact passes_withCaller (ready.tracks_beginFlush s.isFinished) rfl
  | stop free waits =>
    have tracks := ready.tracks_beginStop s.isFinished
    rw [waits] at tracks
    exact passes_withCaller tracks (beginStop_deliveries waits)
  | stopped free waits =>
    have tracks := ready.tracks_beginStop s.isFinished
    rw [waits] at tracks
    exact passes_applied tracks
  | look found waiting => simp [subject?, found, waiting] at none
  | flushed found waiting | ended found waiting =>
    exact .of_held rfl (congrArg (s.outbox.deliveries ++ ·) (awaited_without h.distinct found waiting))
  | @fire generation =>
    -- The timer is gone before the outbox hears of it, and no delivery knows of timers.
    have unset : Passes { s with timers := s.timers.erase generation } _ :=
      passes_applied (ready.tracks_fire s.isFinished generation)
    exact ⟨unset.progress, unset.finished, unset.awaited, unset.held⟩
  | delayed | finished => exact absurd none (Option.some_ne_none _)

theorem once_next (h : s.HeldOnce) (step : s.Moves c t reports) : t.held.Nodup := by
  cases subject : s.subject? c with
  | none => exact (h.passes step subject).nodup_held h.tracked h.once
  | some batch =>
    cases step with
    | look found waiting =>
      have given := (perm_held_look h.distinct found waiting).nodup_iff.mp h.once
      exact (List.nodup_cons.mp given).2
    | delayed | finished => exact h.once
    | flushed found waiting | ended found waiting => simp [subject?, found, waiting] at subject
    | _ => exact absurd subject.symm (Option.some_ne_none batch)

theorem distinct_next (h : s.HeldOnce) (step : s.Moves c t reports) :
    (t.callers.map Prod.fst).Nodup := by
  -- The number under which a call begins is free.
  have joined {n : Nat} {caller : Caller} (free : s.isWaiting n = false) :
      ((s.callers ++ [(n, caller)]).map Prod.fst).Nodup := by
    rw [List.map_append, List.map_singleton]
    refine List.nodup_append.mpr ⟨h.distinct, List.nodup_singleton n, ?_⟩
    rintro m hm k hk rfl
    obtain rfl := List.mem_singleton.mp hk
    obtain ⟨entry, he, rfl⟩ := List.mem_map.mp hm
    have waits : (s.callers.lookup entry.1).isSome = true :=
      List.lookup_isSome_iff.mpr ⟨entry, he, beq_self_eq_true _⟩
    rw [isWaiting, waits] at free
    exact Bool.false_ne_true free.symm
  cases step with
  | flush free | stop free =>
    rw [withCaller_callers, applied_callers]
    exact joined free
  | look =>
    show ((replace s.callers _ _).map Prod.fst).Nodup
    rw [keys_replace]
    exact h.distinct
  | flushed | ended => exact (List.filter_sublist.map Prod.fst).nodup h.distinct
  | delayed | finished => exact h.distinct
  | _ =>
    rw [applied_callers]
    exact h.distinct

/-- An outbox that does not run holds nothing: it stops running by a call to stop, and this one takes
all that is held. -/
theorem idle_next (h : s.HeldOnce) (step : s.Moves c t reports)
    (idle : t.outbox.status.state ≠ .running) : t.outbox.deliveries = [] := by
  have ready := h.tracked.ordered.ready
  -- Where a running outbox would go on to run, this one was idle before.
  have still {o : Outbox} {effects : List Effect} {count : Nat}
      (tracks : Tracks s.isFinished s.outbox effects o.deliveries count)
      (before : s.outbox.status.state ≠ .running) : o.deliveries = [] :=
    tracks.held_eq_nil before (h.idle before)
  cases step with
  | start inRuntime =>
    rw [applied_outbox] at idle ⊢
    refine still (tracks_start s.isFinished s.outbox inRuntime) fun running => idle ?_
    rwa [start_of_running running]
  | update integration =>
    rw [applied_outbox] at idle ⊢
    refine still (ready.tracks_update s.isFinished integration) fun running => idle ?_
    rwa [update_status_of_running running]
  | send id event =>
    rw [applied_outbox] at idle ⊢
    rw [send_status] at idle
    exact still (ready.tracks_send s.settings s.isFinished id event) idle
  | flush =>
    rw [withCaller_outbox, applied_outbox]
    exact beginFlush_deliveries ..
  | stop free waits =>
    rw [withCaller_outbox, applied_outbox]
    exact beginStop_deliveries waits
  | stopped free waits =>
    have tracks := ready.tracks_beginStop s.isFinished
    rw [waits] at tracks
    rw [applied_outbox]
    refine still tracks fun running => ?_
    simp [beginStop, running] at waits
  | ended found waiting stops =>
    exact h.idle (h.tracked.ordered.halted _ (mem_of_lookup found) stops).ne_running
  | fire =>
    rw [applied_outbox] at idle ⊢
    rw [fire_status] at idle
    exact still (ready.tracks_fire s.isFinished _) idle
  | look | flushed | delayed | finished => exact h.idle idle

theorem next (h : s.HeldOnce) (step : s.Moves c t reports) : t.HeldOnce where
  tracked := h.tracked.next step
  once := h.once_next step
  distinct := h.distinct_next step
  idle := h.idle_next step

end HeldOnce

theorem heldOnce_final (settings : OutboxSettings) (labels : List Label) :
    (Run.final next? { settings } labels).HeldOnce :=
  Run.final_induction (.initial settings) (fun _ _ _ _ h step => h.next (moves_of_next? step))
    labels

end System

end Targeting.Platform.Outbox
