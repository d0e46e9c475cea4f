import Targeting.Proofs.Outbox.Tracking

/-!
# What a call waits for

A call to flush or to stop takes the deliveries that it finds with the outbox and waits for them.
What another call has taken before is out of its sight. So a call waits for all batches handed over
before it, in whatever order things go on, if and only if nothing that another call has taken is
still under way when it begins.

## Main definitions

* `Purpose.label`, `Purpose.concerns` — how a call begins, and whether it has anything to do
* `System.WaitsForAll` — when the call returns, all batches from before have ended

## Main results

* `System.waitsForAll_iff` — when a call waits for all batches from before
* `System.not_waitsForAll_of_overlap` — a call to stop that does not
-/

namespace Targeting.Platform.Outbox

/-- The choice by which a call begins. -/
def Purpose.label : Purpose → Nat → System.Label
  | flush => .flush
  | stop => .stop

/-- Whether a call has anything to do: a call to stop leaves an outbox alone that is stopping
already or is finished. -/
def Purpose.concerns : Purpose → State → Bool
  | flush, _ => true
  | stop, .new => true
  | stop, .starting => true
  | stop, .running => true
  | stop, _ => false

namespace System

variable {s t : System} {reports : List Report} {c : Label} {n bound : Nat} {purpose : Purpose}

/-- The step in which a call returns; a call to stop has stopped the outbox then. -/
def Completes (purpose : Purpose) (n : Nat) (step : Step System Label Report) : Prop :=
  n ∈ returnsOf step.reports ∧ (purpose = .stop → step.after.outbox.status.state = .terminated)

/-- However things go on after a call begins: when it returns, every batch that was handed over
before it began has ended. -/
def WaitsForAll (s : System) (purpose : Purpose) (n : Nat) : Prop :=
  ∀ labels between last rest,
    Run.steps next? s (purpose.label n :: labels) = between ++ last :: rest →
    (∀ step ∈ between, n ∉ returnsOf step.reports) → Completes purpose n last →
    ∀ batch < s.outbox.handedOver, last.after.isFinished batch = true

/-! ### The beginning of a call -/

/-- A call begins to wait for what the outbox has kept, and for what it hands over just now. Only a
call to stop a new outbox returns at once. -/
theorem Ordered.begin (h : s.Ordered)
    (concerns : purpose.concerns s.outbox.status.state = true)
    (step : s.Moves (purpose.label n) t reports) :
    s.outbox.status.state = .new ∨ returnsOf reports = [] ∧
      ∃ waiting, t.callers.lookup n = some ⟨purpose, waiting⟩ ∧
        (∀ batch, t.isFinished batch = s.isFinished batch) ∧
        Tracks s.isFinished s.outbox (effectsOf reports) waiting t.outbox.handedOver := by
  cases purpose with
  | flush =>
    cases step with
    | flush free =>
      refine .inr ⟨returnsOf_effects _, _, lookup_withCaller_self _ n _ ?_, ?_, ?_⟩
      · rwa [isWaiting, applied_callers]
      · exact isFinished_applied s _ _
      · rw [effectsOf_map, withCaller_outbox, applied_outbox]
        exact h.ready.tracks_beginFlush s.isFinished
  | stop =>
    cases step with
    | @stop _ waiting free waits =>
      have tracks := h.ready.tracks_beginStop s.isFinished
      rw [waits] at tracks
      refine .inr ⟨returnsOf_effects _, waiting, lookup_withCaller_self _ n _ ?_, ?_, ?_⟩
      · rwa [isWaiting, applied_callers]
      · exact isFinished_applied s _ _
      · rw [effectsOf_map, withCaller_outbox, applied_outbox]
        exact tracks
    | stopped free waits =>
      left
      -- Of the states that concern a call to stop, the other two give it something to wait for.
      unfold beginStop at waits
      cases state : s.outbox.status.state <;> simp [state, Purpose.concerns] at concerns waits ⊢

/-! ### What is awaited ends before the call returns -/

/-- A caller waits for all batches below a number that have not ended. -/
def Awaits (n bound : Nat) (s : System) : Prop :=
  ∃ caller, s.callers.lookup n = some caller ∧
    ∀ batch < bound, s.isFinished batch = true ∨ batch ∈ caller.waiting

theorem Awaits.of_callers (h : s.Awaits n bound)
    (same : t.callers.lookup n = s.callers.lookup n)
    (ended : ∀ batch, s.isFinished batch = true → t.isFinished batch = true) :
    t.Awaits n bound := by
  obtain ⟨caller, found, covered⟩ := h
  exact ⟨caller, same.trans found, fun batch hb => (covered batch hb).imp (ended batch) id⟩

/-- Until its call returns, a caller goes on waiting. -/
theorem Awaits.next (h : s.Awaits n bound) (step : s.Moves c t reports)
    (still : n ∉ returnsOf reports) : t.Awaits n bound := by
  have ended : ∀ batch, s.isFinished batch = true → t.isFinished batch = true :=
    fun _ => step.isFinished_of_isFinished
  obtain ⟨caller, found, covered⟩ := h
  cases step with
  | flush | stop =>
    -- Another call begins behind the ones that wait already.
    have there := found
    rw [← applied_callers s _ _] at there
    refine ⟨caller, lookup_withCaller_of_some _ _ _ there, fun batch hb => ?_⟩
    exact (covered batch hb).imp (ended batch) id
  | @look m other first rest progress looked waiting known gone =>
    by_cases same : n = m
    · subst same
      obtain rfl := Option.some.inj (found.symm.trans looked)
      refine ⟨_, lookup_replace_self (by rw [found]; rfl), fun batch hb => ?_⟩
      rcases covered batch hb with finished | hb
      · exact .inl (ended batch finished)
      · rw [waiting] at hb
        rcases List.mem_cons.mp hb with rfl | hb
        · exact .inl ((isFinished_of_progress? known).trans gone)
        · exact .inr hb
    · exact Awaits.of_callers ⟨caller, found, covered⟩ (lookup_replace_of_ne same) ended
  | @flushed m | @ended m =>
    have other : n ≠ m := fun same => still (List.mem_singleton.mpr same)
    exact Awaits.of_callers ⟨caller, found, covered⟩ (lookup_without_of_ne other) ended
  | delayed | finished => exact Awaits.of_callers ⟨caller, found, covered⟩ rfl ended
  | _ => exact Awaits.of_callers ⟨caller, found, covered⟩ (by rw [applied_callers]) ended

/-- When the call returns, everything that it waited for has ended. -/
theorem Awaits.isFinished_of_return (h : s.Awaits n bound) (step : s.Moves c t reports)
    (returns : n ∈ returnsOf reports) : ∀ batch < bound, t.isFinished batch = true := by
  obtain ⟨caller, found, covered⟩ := h
  cases step with
  | @stopped m free =>
    -- A call that returns at once was not waiting before.
    have same : n = m := by simpa using returns
    rw [isWaiting, ← same, found] at free
    exact absurd free (by simp)
  | @flushed m other looked waiting | @ended m other looked waiting =>
    obtain rfl : n = m := List.mem_singleton.mp returns
    obtain rfl := Option.some.inj (found.symm.trans looked)
    intro batch hb
    refine (covered batch hb).resolve_right ?_
    rw [waiting]
    exact List.not_mem_nil
  | _ => exact absurd returns (by simp)

/-! ### A call may return before what it does not wait for has ended -/

/-- There are choices along which a call returns while a batch has not ended. -/
def MayReturn (purpose : Purpose) (n batch : Nat) (s : System) : Prop :=
  ∃ labels between last, Run.steps next? s labels = between ++ [last] ∧
    (∀ step ∈ between, n ∉ returnsOf step.reports) ∧ Completes purpose n last ∧
    last.after.isFinished batch = false

theorem MayReturn.cons {batch : Nat} (h : t.MayReturn purpose n batch)
    (step : s.next? c = some (t, reports)) (still : n ∉ returnsOf reports) :
    s.MayReturn purpose n batch := by
  obtain ⟨labels, between, last, run, quiet, returned⟩ := h
  refine ⟨c :: labels, ⟨s, c, t, reports⟩ :: between, last, ?_, ?_, returned⟩
  · rw [Run.steps_cons_of_some step, run, List.cons_append]
  · exact List.forall_mem_cons.mpr ⟨still, quiet⟩

/-- A caller with nothing left to wait for returns. -/
theorem mayReturn_of_nil {batch : Nat} (found : s.callers.lookup n = some ⟨purpose, []⟩)
    (active : s.isFinished batch = false) : s.MayReturn purpose n batch := by
  have step : s.next? (.resume n) = some (s.release n purpose) := by
    rw [next?, resume?, found]
    rfl
  refine ⟨[.resume n], [], ⟨s, .resume n, (s.release n purpose).1, (s.release n purpose).2⟩,
    Run.steps_cons_of_some step [], List.forall_mem_nil _, ?_⟩
  cases purpose with
  | flush => exact ⟨⟨List.mem_singleton.mpr rfl, fun h => absurd h (by decide)⟩, active⟩
  | stop => exact ⟨⟨List.mem_singleton.mpr rfl, fun _ => rfl⟩, active⟩

/-- The system after a caller has gone on to wait for something else. -/
def goOn (s : System) (n : Nat) (caller : Caller) : System :=
  { s with callers := replace s.callers n caller }

/-- The system after a delivery has crashed. -/
def crash (s : System) (batch : Nat) : System :=
  { s with deliveries := replace s.deliveries batch (.ended .crashed) }

/-- A caller sees that the first delivery has ended. -/
theorem next?_look {first : Nat} {rest : List Nat} {progress : Progress}
    (found : s.callers.lookup n = some ⟨purpose, first :: rest⟩)
    (known : s.progress? first = some progress) (gone : progress.isEnded = true) :
    s.next? (.resume n)
      = some (s.goOn n ⟨purpose, rest⟩, (afterwards progress).map .effect) := by
  rw [next?, resume?, found]
  show (s.progress? first >>= fun progress => _) = _
  rw [known]
  show (if progress.isEnded = true then _ else _) = _
  rw [if_pos gone]
  rfl

theorem MayReturn.of_look {batch first : Nat} {rest : List Nat} {progress : Progress}
    (h : (s.goOn n ⟨purpose, rest⟩).MayReturn purpose n batch)
    (found : s.callers.lookup n = some ⟨purpose, first :: rest⟩)
    (known : s.progress? first = some progress) (gone : progress.isEnded = true) :
    s.MayReturn purpose n batch :=
  h.cons (next?_look found known gone) (by simp)

/-- An attempt may crash, and then the delivery has ended. -/
theorem next?_crash {batch : Nat} {delivery : Delivery}
    (known : s.progress? batch = some (.active delivery)) :
    s.next? (.attempt batch .none .crashed) = some (s.crash batch, [.ended batch .crashed]) := by
  rw [next?, attempted?, known]
  rfl

/-- All deliveries that a caller waits for may end while another one does not. -/
theorem mayReturn_of_lookup {batch : Nat} {waiting : List Nat}
    (found : s.callers.lookup n = some ⟨purpose, waiting⟩)
    (known : ∀ first ∈ waiting, ∃ progress, s.progress? first = some progress)
    (apart : batch ∉ waiting) (active : s.isFinished batch = false) :
    s.MayReturn purpose n batch := by
  -- The caller looks at one delivery after the other; one that is still under way may crash first.
  induction waiting generalizing s with
  | nil => exact mayReturn_of_nil found active
  | cons first rest ih =>
    obtain ⟨ne, apart⟩ := not_or.mp (mt List.mem_cons.mpr apart)
    obtain ⟨progress, here⟩ := known first List.mem_cons_self
    have later := fun next hn => known next (List.mem_cons_of_mem first hn)
    have looked : (s.goOn n ⟨purpose, rest⟩).callers.lookup n = some ⟨purpose, rest⟩ :=
      lookup_replace_self (by rw [found]; rfl)
    cases progress with
    | ended ending =>
      have after : (s.goOn n ⟨purpose, rest⟩).MayReturn purpose n batch :=
        ih looked later apart active
      exact after.of_look found here rfl
    | active delivery =>
      have crashed : (s.crash first).progress? first = some (.ended .crashed) :=
        lookup_replace_self (by rw [← progress?, here]; rfl)
      have others {next : Nat} (ne : next ≠ first) :
          (s.crash first).progress? next = s.progress? next :=
        lookup_replace_of_ne ne
      have after : ((s.crash first).goOn n ⟨purpose, rest⟩).MayReturn purpose n batch := by
        refine ih looked (fun next hn => ?_) apart ?_
        · by_cases same : next = first
          · subst same
            exact ⟨_, crashed⟩
          · exact (later next hn).imp fun progress known => (others same).trans known
        · rw [← active, isFinished, isFinished, ← others ne]
          rfl
      exact (after.of_look found crashed rfl).cons (next?_crash here) List.not_mem_nil

/-! ### When a call waits for all batches -/

/-- Each call is possible under a number that is free. -/
theorem exists_next? (purpose : Purpose) (free : s.isWaiting n = false) :
    ∃ t reports, s.next? (purpose.label n) = some (t, reports) := by
  cases purpose with
  | flush => exact ⟨_, _, if_neg (by simp [free])⟩
  | stop =>
    rcases turn : s.outbox.beginStop s.isFinished with ⟨_ | waiting, outbox, effects⟩ <;>
      exact ⟨_, _, by simp [Purpose.label, next?, free, turn]; exact ⟨rfl, rfl⟩⟩

/-- What no other caller holds is awaited, or has ended. -/
theorem Tracked.awaits (h : s.Tracked) {effects : List Effect} {waiting : List Nat} {count : Nat}
    (others : ∀ caller ∈ s.callers, ∀ batch ∈ caller.2.waiting, s.isFinished batch = true)
    (found : t.callers.lookup n = some ⟨purpose, waiting⟩)
    (same : ∀ batch, t.isFinished batch = s.isFinished batch)
    (tracks : Tracks s.isFinished s.outbox effects waiting count) :
    t.Awaits n s.outbox.handedOver := by
  refine ⟨_, found, fun batch hb => ?_⟩
  rw [same]
  rcases h.kept batch hb with finished | held | ⟨m, caller, look, hb⟩
  · exact .inl finished
  · exact tracks.kept batch held
  · exact .inl (others _ (mem_of_lookup look) batch hb)

/-- What another caller holds is not awaited. -/
theorem Tracked.not_mem_waiting (h : s.Tracked) {effects : List Effect} {waiting : List Nat}
    {count batch : Nat} {caller : Nat × Caller} (hc : caller ∈ s.callers)
    (hb : batch ∈ caller.2.waiting)
    (tracks : Tracks s.isFinished s.outbox effects waiting count) : batch ∉ waiting := by
  obtain ⟨earlier, apart⟩ := h.awaited caller hc batch hb
  -- The call takes what the outbox holds and what is handed over now, and the batch is neither.
  intro held
  rcases tracks.known held with held | begun
  · exact apart held
  · exact Nat.not_lt.mpr (tracks.handedOver_le_of_mem begun) earlier

section Begun

variable {effects : List Effect} {waiting : List Nat} {count : Nat} (h : s.Tracked)
  (step : s.next? (purpose.label n) = some (t, reports)) (silent : returnsOf reports = [])
  (found : t.callers.lookup n = some ⟨purpose, waiting⟩)
  (same : ∀ batch, t.isFinished batch = s.isFinished batch)
  (tracks : Tracks s.isFinished s.outbox effects waiting count)
include h step silent found same tracks

/-- If another caller held a batch under way, the call could return before the batch has ended. -/
theorem Tracked.isFinished_of_waitsForAll (law : s.WaitsForAll purpose n) :
    ∀ caller ∈ s.callers, ∀ batch ∈ caller.2.waiting, s.isFinished batch = true := by
  intro caller hc batch hb
  refine Bool.of_not_eq_false fun active => ?_
  have tracked := h.next (moves_of_next? step)
  have known : ∀ first ∈ waiting, ∃ progress, t.progress? first = some progress :=
    fun first hf => tracked.exists_progress (tracked.awaited _ (mem_of_lookup found) first hf).1
  obtain ⟨labels, between, last, run, quiet, completes, remains⟩ := mayReturn_of_lookup found known
    (h.not_mem_waiting hc hb tracks) ((same batch).trans active)
  have whole : Run.steps next? s (purpose.label n :: labels)
      = (⟨s, purpose.label n, t, reports⟩ :: between) ++ last :: [] := by
    rw [Run.steps_cons_of_some step, run, List.cons_append]
  have ended := law labels _ last [] whole
    (List.forall_mem_cons.mpr ⟨by simp [silent], quiet⟩) completes batch
    (h.awaited caller hc batch hb).1
  rw [remains] at ended
  exact Bool.false_ne_true ended

/-- If no other caller holds a batch under way, the caller goes on waiting from the step in which
its call begins to the one in which it returns, and these two are not the same. -/
theorem Tracked.waitsForAll_of_isFinished
    (others : ∀ caller ∈ s.callers, ∀ batch ∈ caller.2.waiting, s.isFinished batch = true) :
    s.WaitsForAll purpose n := by
  intro labels between last rest run quiet completes
  rw [Run.steps_cons_of_some step] at run
  cases between with
  | nil =>
    obtain ⟨rfl, -⟩ := List.cons.inj run
    exact absurd completes.1 (by simp [silent])
  | cons first between =>
    obtain ⟨rfl, onward⟩ := List.cons.inj run
    obtain ⟨awaits, returns⟩ := Run.until_induction onward (h.awaits others found same tracks)
      fun x hx awaits taken =>
        awaits.next (moves_of_next? taken) (quiet x (List.mem_cons_of_mem _ hx))
    exact awaits.isFinished_of_return (moves_of_next? returns) completes.1

end Begun

theorem Tracked.waits_iff (h : s.Tracked) (free : s.isWaiting n = false)
    (concerns : purpose.concerns s.outbox.status.state = true) :
    s.WaitsForAll purpose n ↔
      ∀ caller ∈ s.callers, ∀ batch ∈ caller.2.waiting, s.isFinished batch = true := by
  obtain ⟨t, reports, step⟩ := exists_next? purpose free
  rcases h.ordered.begin concerns (moves_of_next? step) with
    new | ⟨silent, waiting, found, same, tracks⟩
  · -- A new outbox has handed nothing over, so nothing is there to be awaited by anyone.
    have none : s.outbox.handedOver = 0 := h.fresh new
    constructor
    · intro _ caller hc batch hb
      exact absurd (h.awaited caller hc batch hb).1 (by simp [none])
    · intro _ labels between last rest run quiet completes batch earlier
      exact absurd earlier (by simp [none])
  · constructor
    · intro law
      exact h.isFinished_of_waitsForAll step silent found same tracks law
    · intro others
      exact h.waitsForAll_of_isFinished step silent found same tracks others

/-- Let a call begin that has something to do, after any run. In whatever order things go on, when
the call returns every batch that was handed over before it has ended: this holds if and only if
nothing that an earlier call still waits for is under way when the call begins. -/
theorem waitsForAll_iff (settings : OutboxSettings) (past : List Label) (purpose : Purpose)
    (n : Nat) (free : (Run.final next? { settings } past).isWaiting n = false)
    (concerns : purpose.concerns (Run.final next? { settings } past).outbox.status.state = true) :
    (Run.final next? { settings } past).WaitsForAll purpose n ↔
      ∀ caller ∈ (Run.final next? { settings } past).callers, ∀ batch ∈ caller.2.waiting,
        (Run.final next? { settings } past).isFinished batch = true :=
  (tracked_final settings past).waits_iff free concerns

/-- Choices that lead to a batch under way and a first call to flush that waits for it. -/
def overlap : List Label :=
  [.start true, .update (.integrated ⟨"key", "https://host", "", []⟩),
    .send "id" ⟨"", "seen", [("vuid", "u")], []⟩, .flush 0]

/-- The first call waits for the batch. -/
theorem waitsForAll_without_overlap :
    (Run.final next? { settings := { disposable := true } } overlap.dropLast).WaitsForAll
      .flush 0 :=
  (waitsForAll_iff { disposable := true } overlap.dropLast .flush 0 (by decide) (by decide)).mpr
    (by decide)

/-- A call to stop finds no delivery with the outbox and ends it at once, while the batch is under
way. -/
theorem not_waitsForAll_of_overlap :
    ¬ ∀ (settings : OutboxSettings) (past : List Label) (purpose : Purpose) (n : Nat),
      (Run.final next? { settings } past).isWaiting n = false →
      purpose.concerns (Run.final next? { settings } past).outbox.status.state = true →
      (Run.final next? { settings } past).WaitsForAll purpose n := by
  intro claim
  -- The second caller has nothing to wait for, so it is released at its first look.
  have law := claim { disposable := true } overlap .stop 1 (by decide) (by decide)
  obtain ⟨first, last, run, silent, returns, stopped, active⟩ : ∃ first last,
      Run.steps next? (Run.final next? { settings := { disposable := true } } overlap)
        [.stop 1, .resume 1] = [first] ++ last :: [] ∧
      returnsOf first.reports = [] ∧ returnsOf last.reports = [1] ∧
      last.after.outbox.status.state = .terminated ∧ last.after.isFinished 0 = false :=
    ⟨_, _, rfl, rfl, rfl, rfl, rfl⟩
  have ended := law [.resume 1] [first] last [] run (by simp [silent])
    ⟨by simp [returns], fun _ => stopped⟩ 0 (by decide)
  rw [active] at ended
  exact Bool.false_ne_true ended

end System

end Targeting.Platform.Outbox
