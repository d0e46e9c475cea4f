import Targeting.Proofs.Outbox.Conservation

/-!
# Where the deliveries are kept

Every batch that is handed over gets the next number, and its delivery is kept in one of two places:
with the outbox, until a call takes all that is there, and then with the caller, until the caller
has seen it end. The outbox forgets a delivery only when it has ended. So a delivery under way is
kept with the outbox or with a caller, and never with both.

## Main definitions

* `Outbox.Tracks` — a step of the outbox that keeps track of its deliveries
* `System.Tracked` — every delivery that is under way is kept somewhere

## Main results

* `System.Tracked.next` — every step of the system keeps track
* `System.tracked_final` — every run does
-/

namespace Targeting.Platform.Outbox

variable {settings : OutboxSettings} {finished : Nat → Bool} {o p q : Outbox}
  {effects : List Effect} {held : List Nat} {count : Nat}

/-! ### Steps of the outbox -/

/-- A step of an outbox keeps track of its deliveries. Here `held` are the deliveries that are kept
afterwards, by the outbox or by the caller, and `count` is the number of batches so far. -/
structure Tracks (finished : Nat → Bool) (o : Outbox) (effects : List Effect) (held : List Nat)
    (count : Nat) : Prop where
  numbered : List.range o.handedOver ++ batches effects = List.range count
  kept : ∀ batch ∈ o.deliveries, finished batch = true ∨ batch ∈ held
  begun : ∀ batch ∈ batches effects, batch ∈ held
  within : held.Sublist (o.deliveries ++ batches effects)
  idle : o.status.state ≠ .running → count = o.handedOver

theorem range_append_inQueue (h : o.Deliverable) :
    List.range o.handedOver ++ o.inQueue.map Prod.fst
      = List.range (o.handedOver + o.inQueue.length) := by
  by_cases queued : o.queue = []
  · rw [inQueue_of_nil queued]
    exact List.append_nil _
  · obtain ⟨-, config, integrated⟩ := h queued
    rw [inQueue_of_config queued integrated]
    exact List.range_succ.symm

namespace Tracks

theorem of_flush (h : q.Deliverable) (deliveries : q.deliveries = o.deliveries)
    (handedOver : q.handedOver = o.handedOver)
    (idle : o.status.state ≠ .running → q.queue = []) :
    Tracks finished o (q.flush finished).2 (q.flush finished).1.deliveries
      (q.flush finished).1.handedOver := by
  have begun : batches (q.flush finished).2 = q.inQueue.map Prod.fst := by
    rw [batches, h.flush_handovers]
  have held : (q.flush finished).1.deliveries
      = o.deliveries.filter (!finished ·) ++ q.inQueue.map Prod.fst := by
    rw [h.flush_eq, deliveries]
  have count : (q.flush finished).1.handedOver = o.handedOver + q.inQueue.length := by
    rw [h.flush_eq, handedOver]
  rw [held, count]
  refine ⟨?_, ?_, ?_, ?_, ?_⟩
  · rw [begun, ← handedOver, range_append_inQueue h]
  · -- A flush forgets what has ended, and nothing else.
    intro batch hb
    cases ended : finished batch with
    | true => exact .inl rfl
    | false => exact .inr (List.mem_append_left _ (List.mem_filter.mpr ⟨hb, by simp [ended]⟩))
  · rw [begun]
    exact fun batch => List.mem_append_right _
  · rw [begun]
    exact List.filter_sublist.append (.refl _)
  · intro still
    rw [inQueue_of_nil (idle still)]
    rfl

theorem of_idle (idle : batches effects = []) :
    Tracks finished o effects o.deliveries o.handedOver where
  numbered := by rw [idle, List.append_nil]
  kept _ hb := .inr hb
  begun := by simp [idle]
  within := List.sublist_append_left ..
  idle _ := rfl

section

variable (h : Tracks finished o effects held count) {batch : Nat}
include h

theorem known (hb : batch ∈ held) : batch ∈ o.deliveries ∨ batch ∈ batches effects :=
  List.mem_append.mp (h.within.subset hb)

theorem lt_count_iff : batch < count ↔ batch < o.handedOver ∨ batch ∈ batches effects := by
  rw [← List.mem_range, ← h.numbered, List.mem_append, List.mem_range]

theorem handedOver_le_of_mem (hb : batch ∈ batches effects) : o.handedOver ≤ batch := by
  -- Old and new numbers together are a range, in which no number stands twice.
  have distinct := h.numbered ▸ List.nodup_range
  exact Nat.le_of_not_lt fun earlier =>
    (List.nodup_append.mp distinct).2.2 batch (List.mem_range.mpr earlier) batch hb rfl

/-- What was known before or is handed over now has a number below the new count. -/
theorem lt_count_of_mem (known : ∀ batch ∈ o.deliveries, batch < o.handedOver)
    (hb : batch ∈ held) : batch < count :=
  h.lt_count_iff.mpr ((h.known hb).imp (known batch) id)

end

end Tracks

theorem tracks_start (finished : Nat → Bool) (o : Outbox) (inRuntime : Bool) :
    Tracks finished o (o.start inRuntime).2.2 (o.start inRuntime).2.1.deliveries
      (o.start inRuntime).2.1.handedOver := by
  unfold start
  split
  · exact .of_idle rfl
  · cases inRuntime <;> exact .of_idle rfl

namespace Ready

variable (settings finished) (h : o.Ready)
include h

theorem tracks_update (integration : Integration) :
    Tracks finished o (o.update finished integration).2
      (o.update finished integration).1.deliveries
      (o.update finished integration).1.handedOver := by
  unfold Outbox.update
  split
  · exact .of_idle rfl
  · exact .of_idle rfl
  · split
    · exact .of_idle rfl
    · exact .of_flush h.deliverable rfl rfl h.queue_eq_nil
  · exact .of_idle rfl

theorem tracks_accept (running : o.status.state = .running)
    (integrated : o.config?.isSome = true) (event : Event) :
    Tracks finished o (o.accept settings finished event).2
      (o.accept settings finished event).1.deliveries
      (o.accept settings finished event).1.handedOver := by
  by_cases full : settings.fullBatch ≤ (o.queue ++ [event]).length
  · rw [accept_of_full full]
    have enqueued := (h.enqueue running integrated event).deliverable
    have tracks : Tracks finished o _ _ _ :=
      .of_flush enqueued rfl rfl fun still => absurd running still
    -- That the event is accepted is one more effect, but not one that hands anything over.
    exact ⟨tracks.numbered, tracks.kept, tracks.begun, tracks.within, tracks.idle⟩
  · rw [accept_of_not_full full]
    unfold Outbox.arm
    split <;> exact .of_idle rfl

theorem tracks_send (id : String) (event : Event) :
    Tracks finished o (o.send settings finished id event).2
      (o.send settings finished id event).1.deliveries
      (o.send settings finished id event).1.handedOver := by
  unfold Outbox.send
  cases refused : o.refusal? settings event with
  | some notice => exact .of_idle rfl
  | none =>
    obtain ⟨running, integrated⟩ := of_admits (refusal?_eq_none_iff.mp refused)
    exact h.tracks_accept settings finished running integrated _

theorem tracks_fire (generation : Nat) :
    Tracks finished o (o.fire finished generation).2 (o.fire finished generation).1.deliveries
      (o.fire finished generation).1.handedOver := by
  unfold Outbox.fire
  split
  · exact .of_flush (q := { o with timer := none }) h.deliverable rfl rfl h.queue_eq_nil
  · exact .of_idle rfl

theorem tracks_beginFlush :
    Tracks finished o (o.beginFlush finished).2.2 (o.beginFlush finished).1
      (o.beginFlush finished).2.1.handedOver :=
  .of_flush h.deliverable rfl rfl h.queue_eq_nil

/-- A call to stop that has to wait holds the deliveries; one that returns at once leaves them where
they are. -/
theorem tracks_beginStop :
    Tracks finished o (o.beginStop finished).2.2
      ((o.beginStop finished).1.getD (o.beginStop finished).2.1.deliveries)
      (o.beginStop finished).2.1.handedOver := by
  -- The flush is that of an outbox that is stopping, but whether it was idle is asked of the one
  -- before.
  have stopping : Tracks finished o _ _ _ :=
    .of_flush (q := { o with status := o.status.set .stopping }) h.deliverable rfl rfl
      h.queue_eq_nil
  unfold Outbox.beginStop
  split
  · exact .of_idle rfl
  · exact stopping
  · exact stopping
  · exact .of_idle rfl

end Ready

theorem beginFlush_deliveries (finished : Nat → Bool) (o : Outbox) :
    (o.beginFlush finished).2.1.deliveries = [] := rfl

theorem beginStop_deliveries {waiting : List Nat} (h : (o.beginStop finished).1 = some waiting) :
    (o.beginStop finished).2.1.deliveries = [] := by
  unfold beginStop at h ⊢
  split at h
  · exact absurd h (by simp)
  · exact beginFlush_deliveries ..
  · exact beginFlush_deliveries ..
  · exact absurd h (by simp)

/-! ### Steps of the system -/

namespace System

variable {s t : System} {reports : List Report} {c : Label}

/-- Every delivery that is under way is kept somewhere: with the outbox or with a caller, but not
with both. -/
structure Tracked (s : System) : Prop where
  ordered : s.Ordered
  fresh : s.outbox.status.state = .new → s.outbox.handedOver = 0
  numbered : s.deliveries.map Prod.fst = List.range s.outbox.handedOver
  kept : ∀ batch < s.outbox.handedOver, s.isFinished batch = true ∨ batch ∈ s.outbox.deliveries ∨
    ∃ n caller, s.callers.lookup n = some caller ∧ batch ∈ caller.waiting
  known : ∀ batch ∈ s.outbox.deliveries, batch < s.outbox.handedOver
  awaited : ∀ caller ∈ s.callers, ∀ batch ∈ caller.2.waiting,
    batch < s.outbox.handedOver ∧ batch ∉ s.outbox.deliveries

namespace Tracked

theorem initial (settings : OutboxSettings) : Tracked { settings } where
  ordered := .initial settings
  fresh _ := rfl
  numbered := rfl
  kept _ hb := absurd hb (Nat.not_lt_zero _)
  known := List.forall_mem_nil _
  awaited := List.forall_mem_nil _

/-- No two deliveries have one number. -/
theorem nodup_numbers (h : s.Tracked) : (s.deliveries.map Prod.fst).Nodup :=
  h.numbered ▸ List.nodup_range

theorem exists_progress (h : s.Tracked) {batch : Nat} (earlier : batch < s.outbox.handedOver) :
    ∃ progress, s.progress? batch = some progress := by
  refine Option.isSome_iff_exists.mp (List.lookup_isSome_iff.mpr ?_)
  have key : batch ∈ s.deliveries.map Prod.fst := h.numbered ▸ List.mem_range.mpr earlier
  obtain ⟨entry, he, rfl⟩ := List.mem_map.mp key
  exact ⟨entry, he, by simp⟩

section

variable {n : Nat} {o : Outbox} {effects : List Effect} {held : List Nat} {caller : Caller}

/-- A step that ends with a new outbox was one of a new outbox, which hands nothing over. -/
theorem fresh_of_leads (h : s.Tracked)
    (tracks : Tracks s.isFinished s.outbox effects held o.handedOver)
    (leads : s.outbox.status.state.Leads o.status.state) (new : o.status.state = .new) :
    o.handedOver = 0 := by
  have before : s.outbox.status.state = .new := (new ▸ leads).eq_new
  have idle : s.outbox.status.state ≠ .running := by
    rw [before]
    decide
  rw [tracks.idle idle, h.fresh before]

theorem keys_applied (h : s.Tracked)
    (tracks : Tracks s.isFinished s.outbox effects held o.handedOver) :
    (s.applied o effects).1.deliveries.map Prod.fst = List.range o.handedOver := by
  rw [applied_deliveries, List.map_append, h.numbered, List.map_map, ← tracks.numbered]
  rfl

/-- A step of the outbox that leaves what it holds with the outbox. -/
theorem applied (h : s.Tracked)
    (tracks : Tracks s.isFinished s.outbox effects o.deliveries o.handedOver)
    (ordered : (s.applied o effects).1.Ordered)
    (leads : s.outbox.status.state.Leads o.status.state) : (s.applied o effects).1.Tracked where
  ordered := ordered
  fresh new := by
    rw [applied_outbox] at new ⊢
    exact h.fresh_of_leads tracks leads new
  numbered := by
    rw [applied_outbox]
    exact h.keys_applied tracks
  kept batch hb := by
    rw [applied_outbox] at hb ⊢
    rw [isFinished_applied, applied_callers]
    rcases tracks.lt_count_iff.mp hb with hb | hb
    · rcases h.kept batch hb with ended | hb | waits
      · exact .inl ended
      · exact (tracks.kept batch hb).imp id .inl
      · exact .inr (.inr waits)
    · exact .inr (.inl (tracks.begun batch hb))
  known batch hb := by
    rw [applied_outbox] at hb ⊢
    exact tracks.lt_count_of_mem h.known hb
  awaited caller hc batch hb := by
    rw [applied_callers] at hc
    rw [applied_outbox]
    obtain ⟨earlier, apart⟩ := h.awaited caller hc batch hb
    -- What the outbox holds now it held before, or its number is new.
    refine ⟨tracks.lt_count_iff.mpr (.inl earlier), fun held => ?_⟩
    rcases tracks.known held with held | begun
    · exact apart held
    · exact Nat.not_lt.mpr (tracks.handedOver_le_of_mem begun) earlier

/-- A step of the outbox that gives what it holds to a caller. -/
theorem applied_withCaller (h : s.Tracked) (free : s.isWaiting n = false)
    (tracks : Tracks s.isFinished s.outbox effects caller.waiting o.handedOver)
    (emptied : o.deliveries = []) (ordered : ((s.applied o effects).1.withCaller n caller).Ordered)
    (leads : s.outbox.status.state.Leads o.status.state) :
    ((s.applied o effects).1.withCaller n caller).Tracked where
  ordered := ordered
  fresh new := by
    rw [withCaller_outbox, applied_outbox] at new ⊢
    exact h.fresh_of_leads tracks leads new
  numbered := by
    rw [withCaller_deliveries, withCaller_outbox, applied_outbox]
    exact h.keys_applied tracks
  kept batch hb := by
    rw [withCaller_outbox, applied_outbox] at hb
    rw [isFinished_congr (withCaller_deliveries ..), isFinished_applied]
    -- The new caller holds all that the outbox held and all that is handed over now.
    have mine : ((s.applied o effects).1.withCaller n caller).callers.lookup n = some caller :=
      lookup_withCaller_self _ n caller (by rwa [isWaiting, applied_callers])
    rcases tracks.lt_count_iff.mp hb with hb | hb
    · rcases h.kept batch hb with ended | hb | ⟨m, other, found, hb⟩
      · exact .inl ended
      · exact (tracks.kept batch hb).imp id fun hb => .inr ⟨n, caller, mine, hb⟩
      · refine .inr (.inr ⟨m, other, lookup_withCaller_of_some _ n caller ?_, hb⟩)
        rwa [applied_callers]
    · exact .inr (.inr ⟨n, caller, mine, tracks.begun batch hb⟩)
  known batch hb := by
    rw [withCaller_outbox, applied_outbox, emptied] at hb
    exact absurd hb List.not_mem_nil
  awaited other hc batch hb := by
    rw [withCaller_callers, applied_callers] at hc
    rw [withCaller_outbox, applied_outbox, emptied]
    refine ⟨?_, List.not_mem_nil⟩
    rcases List.mem_append.mp hc with hc | hc
    · exact tracks.lt_count_iff.mpr (.inl (h.awaited other hc batch hb).1)
    · rw [List.mem_singleton.mp hc] at hb
      exact tracks.lt_count_of_mem h.known hb

end

/-- A step that hands nothing over: deliveries end, and callers forget what they have seen end. -/
theorem of_idle (h : s.Tracked) (ordered : t.Ordered)
    (leads : s.outbox.status.state.Leads t.outbox.status.state)
    (held : t.outbox.deliveries = s.outbox.deliveries)
    (count : t.outbox.handedOver = s.outbox.handedOver)
    (keys : t.deliveries.map Prod.fst = s.deliveries.map Prod.fst)
    (ended : ∀ batch, s.isFinished batch = true → t.isFinished batch = true)
    (kept : ∀ n caller, s.callers.lookup n = some caller → ∀ batch ∈ caller.waiting,
      t.isFinished batch = true ∨
        ∃ m other, t.callers.lookup m = some other ∧ batch ∈ other.waiting)
    (known : ∀ caller ∈ t.callers, ∀ batch ∈ caller.2.waiting,
      ∃ old ∈ s.callers, batch ∈ old.2.waiting) : t.Tracked where
  ordered := ordered
  fresh new := by rw [count, h.fresh (new ▸ leads).eq_new]
  numbered := by rw [keys, count, h.numbered]
  kept batch hb := by
    rw [count] at hb
    rw [held]
    rcases h.kept batch hb with finished | held | ⟨n, caller, found, hb⟩
    · exact .inl (ended batch finished)
    · exact .inr (.inl held)
    · exact (kept n caller found batch hb).imp id .inr
  known := held ▸ count ▸ h.known
  awaited caller hc batch hb := by
    obtain ⟨old, ho, hb⟩ := known caller hc batch hb
    rw [held, count]
    exact h.awaited old ho batch hb

/-- A caller that has nothing to wait for leaves. -/
theorem of_release (h : s.Tracked) {n : Nat} {caller : Caller} (ordered : t.Ordered)
    (leads : s.outbox.status.state.Leads t.outbox.status.state)
    (found : s.callers.lookup n = some caller) (waiting : caller.waiting = [])
    (held : t.outbox.deliveries = s.outbox.deliveries)
    (count : t.outbox.handedOver = s.outbox.handedOver) (same : t.deliveries = s.deliveries)
    (callers : t.callers = without s.callers n) : t.Tracked := by
  refine h.of_idle ordered leads held count (by rw [same])
    (fun batch => by rw [isFinished_congr same]; exact id) ?_ ?_
  · intro m other look batch hb
    -- A caller that still waits for something is not the one that leaves.
    have ne : m ≠ n := by
      rintro rfl
      obtain rfl := Option.some.inj (look.symm.trans found)
      rw [waiting] at hb
      exact List.not_mem_nil hb
    exact .inr ⟨m, other, by rw [callers, lookup_without_of_ne ne, look], hb⟩
  · intro other hc batch hb
    rw [callers] at hc
    exact ⟨other, (List.mem_filter.mp hc).1, hb⟩

/-- The first delivery that a caller waits for has ended, and it goes on to the next one. -/
theorem of_look (h : s.Tracked) {n first : Nat} {caller : Caller} {rest : List Nat}
    (ordered : { s with callers := replace s.callers n { caller with waiting := rest } }.Ordered)
    (found : s.callers.lookup n = some caller) (waiting : caller.waiting = first :: rest)
    (gone : s.isFinished first = true) :
    { s with callers := replace s.callers n { caller with waiting := rest } }.Tracked := by
  have mine : (replace s.callers n { caller with waiting := rest }).lookup n
      = some { caller with waiting := rest } :=
    lookup_replace_self (by rw [found]; rfl)
  refine h.of_idle ordered (.refl _) rfl rfl rfl (fun _ => id) ?_ ?_
  · intro m other look batch hb
    by_cases same : m = n
    · subst same
      obtain rfl := Option.some.inj (look.symm.trans found)
      rw [waiting] at hb
      rcases List.mem_cons.mp hb with rfl | hb
      · exact .inl gone
      · exact .inr ⟨m, _, mine, hb⟩
    · exact .inr ⟨m, other, (lookup_replace_of_ne same).trans look, hb⟩
  · intro other hc batch hb
    rcases mem_replace hc with hc | rfl
    · exact ⟨other, hc, hb⟩
    · exact ⟨(n, caller), mem_of_lookup found, waiting ▸ List.mem_cons_of_mem _ hb⟩

/-- A delivery moves on, and nobody hears of it yet. -/
theorem of_attempt (h : s.Tracked) {batch : Nat} {progress : Progress}
    (ordered : { s with deliveries := replace s.deliveries batch progress }.Ordered)
    (ended : ∀ other, s.isFinished other = true →
      { s with deliveries := replace s.deliveries batch progress }.isFinished other = true) :
    { s with deliveries := replace s.deliveries batch progress }.Tracked := by
  refine h.of_idle ordered (.refl _) rfl rfl (keys_replace ..) ended ?_ ?_
  · intro n caller found other ho
    exact .inr ⟨n, caller, found, ho⟩
  · intro caller hc other ho
    exact ⟨caller, hc, ho⟩

/-- Every step keeps track of the deliveries. -/
theorem next (h : s.Tracked) (step : s.Moves c t reports) : t.Tracked := by
  have ordered := h.ordered.next step
  have leads := h.ordered.leads step
  have ended : ∀ batch, s.isFinished batch = true → t.isFinished batch = true :=
    fun _ => step.isFinished_of_isFinished
  have ready := h.ordered.ready
  cases step with
  | start inRuntime =>
    rw [applied_outbox] at leads
    exact h.applied (tracks_start s.isFinished s.outbox inRuntime) ordered leads
  | update integration =>
    rw [applied_outbox] at leads
    exact h.applied (ready.tracks_update s.isFinished integration) ordered leads
  | send id event =>
    rw [applied_outbox] at leads
    exact h.applied (ready.tracks_send s.settings s.isFinished id event) ordered leads
  | flush free =>
    rw [withCaller_outbox, applied_outbox] at leads
    exact h.applied_withCaller free (ready.tracks_beginFlush s.isFinished)
      (beginFlush_deliveries ..) ordered leads
  | stop free waits =>
    rw [withCaller_outbox, applied_outbox] at leads
    have tracks := ready.tracks_beginStop s.isFinished
    rw [waits] at tracks
    exact h.applied_withCaller free tracks (beginStop_deliveries waits) ordered leads
  | stopped free waits =>
    rw [applied_outbox] at leads
    have tracks := ready.tracks_beginStop s.isFinished
    rw [waits] at tracks
    exact h.applied tracks ordered leads
  | look found waiting known gone =>
    exact h.of_look ordered found waiting ((isFinished_of_progress? known).trans gone)
  | flushed found waiting => exact h.of_release ordered leads found waiting rfl rfl rfl rfl
  | ended found waiting => exact h.of_release ordered leads found waiting rfl rfl rfl rfl
  | @fire generation =>
    rw [applied_outbox] at leads
    -- The timer is gone before the outbox hears of it.
    have unset : { s with timers := s.timers.erase generation }.Tracked :=
      ⟨⟨ready, h.ordered.halted⟩, h.fresh, h.numbered, h.kept, h.known, h.awaited⟩
    exact unset.applied (ready.tracks_fire s.isFinished generation) ordered leads
  | delayed | finished => exact h.of_attempt ordered ended

end Tracked

theorem tracked_final (settings : OutboxSettings) (labels : List Label) :
    (Run.final next? { settings } labels).Tracked :=
  Run.final_induction (.initial settings) (fun _ _ _ _ h step => h.next (moves_of_next? step))
    labels

end System

end Targeting.Platform.Outbox
