import Targeting.Proofs.Outbox.Holding

/-!
# The last word about a batch

A delivery that ends by itself says so. One that crashes cannot: somebody who holds it has to look at
it and say so instead. A caller does, but the outbox forgets a delivery that has ended without a look
at how. So every batch has its last word, is overlooked, or has its last word still to come.

## Main definitions

* `System.lastWords` — the final notices about a batch in a run
* `System.overlooked` — the crashed deliveries that a step forgets
* `System.isOwed` — whether the last word about a batch is still to come

## Main results

* `System.Moves.finalNotices_of_none` — every final notice is about a batch
* `System.HeldOnce.balance` — a step says the last word, or overlooks a crash, or leaves the word to
  come
* `System.lastWord_iff` — after a stop, every batch has its last word if and only if no crash was
  overlooked
-/

namespace Targeting.Platform

/-! ### What a delivery says itself -/

namespace Delivery

open Outbox (Notice)

variable {d : Delivery} {outcome : Outcome}

/-- Whether a delivery that goes on like this has had its last word. -/
def Sequel.isTold : Sequel → Bool
  | .wait _ _ => false
  | .ended .crashed => false
  | .ended _ => true

/-- What is final about an outcome that no attempt may follow. -/
theorem filter_final_of_isFinal : outcome.isFinal = true →
    (d.notices outcome).filter Notice.isFinal = match outcome with
      | .status _ => [.sent d.batch.length d.attempt]
      | .failed failure => [.unsendable failure d.batch.length]
      | .crashed => [] := by
  intro final
  cases outcome with
  | status code =>
    have sent : d.notices (.status code) = [.sent d.batch.length d.attempt] := if_pos final
    rw [sent]
    rfl
  | failed failure =>
    have retryable : ¬ failure.isRetryable = true := by simpa [Outcome.isFinal] using final
    have unsendable : d.notices (.failed failure) = [.unsendable failure d.batch.length] :=
      if_neg retryable
    rw [unsendable]
    rfl
  | crashed => rfl

theorem length_final_of_isFinal (final : outcome.isFinal = true) :
    ((d.notices outcome).filter Notice.isFinal).length
      = (Sequel.ended (endingOf outcome)).isTold.toNat := by
  rw [filter_final_of_isFinal final]
  cases outcome <;> rfl

theorem filter_final_of_not_isFinal (goesOn : ¬ outcome.isFinal = true) :
    (d.notices outcome).filter Notice.isFinal = [] := by
  cases outcome with
  | status code =>
    have refused : d.notices (.status code) = [.refused (.ofStatus code) d.attempt] :=
      if_neg goesOn
    rw [refused]
    rfl
  | failed failure =>
    have retryable : failure.isRetryable = true := by simpa [Outcome.isFinal] using goesOn
    have failed : d.notices (.failed failure) = [.failed failure d.attempt] := if_pos retryable
    rw [failed]
    rfl
  | crashed => rfl

theorem length_final_retry (d : Delivery) (draw : Duration) :
    ((d.retry draw).1.filter Notice.isFinal).length = (d.retry draw).2.isTold.toNat := by
  unfold retry
  split
  · rfl
  · split <;> rfl

/-- A delivery says its last word when it ends, unless it crashes. -/
theorem length_final_receive (d : Delivery) (draw : Duration) (outcome : Outcome) :
    ((d.receive draw outcome).1.filter Notice.isFinal).length
      = (d.receive draw outcome).2.isTold.toNat := by
  unfold receive
  split
  · next final => exact length_final_of_isFinal final
  · next goesOn =>
    rw [List.filter_append, filter_final_of_not_isFinal goesOn]
    exact length_final_retry d draw

end Delivery

namespace Outbox

/-- What is said by an effect. -/
def Effect.notice? : Effect → Option Notice
  | said notice => some notice
  | _ => none

/-- Whether an effect is a last word about a batch. -/
def Effect.isLastWord (e : Effect) : Bool := e.notice?.any Notice.isFinal

/-- Whether a delivery has crashed. -/
def Progress.isCrashed : Progress → Bool
  | ended .crashed => true
  | _ => false

theorem Progress.isEnded_of_isCrashed {progress : Progress} (h : progress.isCrashed = true) :
    progress.isEnded = true := by
  cases progress with
  | active => exact h
  | ended => rfl

/-! ### What the outbox says itself -/

section Silence

variable {settings : OutboxSettings} {finished : Nat → Bool} {o : Outbox}

theorem isLastWord_of_empty : ∀ e ∈ o.empty.2, e.isLastWord = false := by
  unfold empty
  split
  · exact List.forall_mem_nil _
  · split
    · exact List.forall_mem_singleton.mpr rfl
    · split <;> exact List.forall_mem_singleton.mpr rfl

/-- The outbox has no last word about what it hands over. -/
theorem isLastWord_of_flush : ∀ e ∈ (o.flush finished).2, e.isLastWord = false := by
  rw [flush_snd, disarm_snd]
  refine List.forall_mem_append.mpr ⟨fun e he => ?_, isLastWord_of_empty⟩
  obtain ⟨generation, -, rfl⟩ := List.mem_map.mp he
  rfl

theorem isLastWord_of_start (inRuntime : Bool) :
    ∀ e ∈ (o.start inRuntime).2.2, e.isLastWord = false := by
  unfold start
  split
  · exact List.forall_mem_nil _
  · split
    · exact List.forall_mem_nil _
    · exact List.forall_mem_singleton.mpr rfl

theorem isLastWord_of_update (integration : Integration) :
    ∀ e ∈ (o.update finished integration).2, e.isLastWord = false := by
  unfold Outbox.update
  split
  · exact List.forall_mem_nil _
  · exact List.forall_mem_nil _
  · split
    · exact List.forall_mem_nil _
    · exact isLastWord_of_flush
  · exact List.forall_mem_singleton.mpr rfl

theorem isLastWord_of_refusal? {event : Event} {notice : Notice}
    (refused : o.refusal? settings event = some notice) :
    Effect.isLastWord (.said notice) = false := by
  have given {other : Notice} (silent : Effect.isLastWord (.said other) = false)
      (same : some other = some notice) : Effect.isLastWord (.said notice) = false :=
    Option.some.inj same ▸ silent
  unfold refusal? at refused
  split at refused
  · exact given rfl refused
  · split at refused
    · exact given rfl refused
    · split at refused
      · exact given rfl refused
      · split at refused
        · exact given rfl refused
        · exact absurd refused.symm (Option.some_ne_none notice)

theorem isLastWord_of_send (id : String) (event : Event) :
    ∀ e ∈ (o.send settings finished id event).2, e.isLastWord = false := by
  unfold send
  split
  · next refused => exact List.forall_mem_singleton.mpr (isLastWord_of_refusal? refused)
  · unfold accept
    refine List.forall_mem_cons.mpr ⟨rfl, ?_⟩
    split
    · exact isLastWord_of_flush
    · unfold arm
      split
      · exact List.forall_mem_singleton.mpr rfl
      · exact List.forall_mem_nil _

theorem isLastWord_of_fire (generation : Nat) :
    ∀ e ∈ (o.fire finished generation).2, e.isLastWord = false := by
  unfold fire
  split
  · exact isLastWord_of_flush
  · exact List.forall_mem_nil _

theorem isLastWord_of_beginStop : ∀ e ∈ (o.beginStop finished).2.2, e.isLastWord = false := by
  unfold beginStop
  split
  · exact List.forall_mem_nil _
  · exact isLastWord_of_flush
  · exact isLastWord_of_flush
  · exact List.forall_mem_nil _

end Silence

namespace System

variable {s t : System} {c : Label} {reports : List Report} {batch : Nat}

/-! ### Last words -/

/-- The final notices among some reports. -/
def finalNotices (reports : List Report) : List Notice :=
  ((effectsOf reports).filterMap Effect.notice?).filter Notice.isFinal

/-- The final notices about a batch in a step. -/
def lastWordsIn (batch : Nat) (step : Step System Label Report) : List Notice :=
  if step.before.subject? step.choice = some batch then finalNotices step.reports else []

/-- The final notices about a batch in a run. -/
def lastWords (batch : Nat) (run : List (Step System Label Report)) : List Notice :=
  run.flatMap (lastWordsIn batch)

theorem lastWords_append (past : List (Step System Label Report)) (step : Step System Label Report) :
    lastWords batch (past ++ [step]) = lastWords batch past ++ lastWordsIn batch step := by
  simp [lastWords]

/-- Whether the delivery of a batch has crashed. -/
def hasCrashed (s : System) (batch : Nat) : Bool := (s.progress? batch).any Progress.isCrashed

/-- Whether a delivery that has crashed before a step is held by nobody after it. -/
def losesSight (step : Step System Label Report) (batch : Nat) : Bool :=
  step.before.hasCrashed batch && !step.after.held.contains batch

/-- The crashed deliveries that the outbox forgets in a step. -/
def overlooked (step : Step System Label Report) : List Nat :=
  step.before.outbox.deliveries.filter (losesSight step)

/-- Whether the last word about a batch is still to come: it is under way, or it has crashed and
somebody still has to look at it. -/
def isOwed (s : System) (batch : Nat) : Bool :=
  !s.isFinished batch || s.hasCrashed batch && s.held.contains batch

/-! ### One step -/

theorem finalNotices_notices (notices : List Notice) (rest : List Report)
    (silent : effectsOf rest = []) :
    finalNotices (notices.map (fun notice => .effect (.said notice)) ++ rest)
      = notices.filter Notice.isFinal := by
  rw [finalNotices, effectsOf_append, effectsOf_notices, silent, List.append_nil,
    List.filterMap_map]
  exact congrArg _ List.filterMap_some

/-- Somebody who looks at a delivery has something to say only if it has crashed. -/
theorem length_final_afterwards {progress : Progress} (gone : progress.isEnded = true) :
    (finalNotices ((afterwards progress).map .effect)).length = progress.isCrashed.toNat := by
  cases progress with
  | active => exact absurd gone Bool.false_ne_true
  | ended ending => cases ending <;> rfl

theorem hasCrashed_of_progress? {progress : Progress}
    (known : s.progress? batch = some progress) : s.hasCrashed batch = progress.isCrashed := by
  rw [hasCrashed, known, Option.any_some]

theorem count_overlooked {step : Step System Label Report} (once : step.before.held.Nodup)
    (batch : Nat) : (overlooked step).count batch
      = (step.before.outbox.deliveries.contains batch && losesSight step batch).toNat := by
  have distinct : step.before.outbox.deliveries.Nodup := (List.nodup_append.mp once).1
  cases missed : losesSight step batch with
  | false =>
    rw [Bool.and_false]
    refine List.count_eq_zero.mpr fun hb => ?_
    rw [(List.mem_filter.mp hb).2] at missed
    exact Bool.false_ne_true missed.symm
  | true =>
    rw [Bool.and_true, overlooked, List.count_filter missed, distinct.count]
    by_cases hb : batch ∈ step.before.outbox.deliveries <;> simp [hb]

theorem isOwed_of_progress? {progress : Progress} (known : s.progress? batch = some progress) :
    s.isOwed batch
      = (!progress.isEnded || progress.isCrashed && s.held.contains batch) := by
  rw [isOwed, isFinished_of_progress? known, hasCrashed_of_progress? known]

theorem isOwed_of_active (active : s.isFinished batch = false) : s.isOwed batch = true := by
  rw [isOwed, active]
  rfl

/-- Where nothing changes about a batch, its last word is owed as before. -/
theorem isOwed_congr (same : t.progress? batch = s.progress? batch)
    (held : batch ∈ t.held ↔ batch ∈ s.held) : t.isOwed batch = s.isOwed batch := by
  simp only [isOwed, isFinished, hasCrashed, same, List.contains_eq_mem, held]

theorem finalNotices_eq_nil (silent : ∀ e ∈ effectsOf reports, e.isLastWord = false) :
    finalNotices reports = [] := by
  refine List.filter_eq_nil_iff.mpr fun notice hn => ?_
  obtain ⟨e, he, said⟩ := List.mem_filterMap.mp hn
  have quiet := silent e he
  rw [Effect.isLastWord, said, Option.any_some] at quiet
  rw [quiet]
  exact Bool.false_ne_true

/-- Every final notice is about a batch: where the choice is about no delivery there is none. -/
theorem Moves.finalNotices_of_none (step : s.Moves c t reports) (none : s.subject? c = none) :
    finalNotices reports = [] := by
  apply finalNotices_eq_nil
  cases step with
  | start inRuntime =>
    rw [effectsOf_append, effectsOf_map]
    exact List.forall_mem_append.mpr ⟨isLastWord_of_start inRuntime, List.forall_mem_nil _⟩
  | update integration =>
    rw [effectsOf_map]
    exact isLastWord_of_update integration
  | send id event =>
    rw [effectsOf_map]
    exact isLastWord_of_send id event
  | flush =>
    rw [effectsOf_map]
    exact isLastWord_of_flush
  | stop =>
    rw [effectsOf_map]
    exact isLastWord_of_beginStop
  | stopped =>
    rw [effectsOf_append, effectsOf_map]
    exact List.forall_mem_append.mpr ⟨isLastWord_of_beginStop, List.forall_mem_nil _⟩
  | look found waiting => simp [subject?, found, waiting] at none
  | flushed => exact List.forall_mem_nil _
  | ended => exact List.forall_mem_singleton.mpr rfl
  | @fire generation =>
    rw [effectsOf_map]
    exact isLastWord_of_fire generation
  | delayed | finished => exact absurd none (Option.some_ne_none _)

/-- A choice that is about a delivery leaves the outbox alone. -/
theorem Moves.outbox_of_subject (step : s.Moves c t reports) {subject : Nat}
    (about : s.subject? c = some subject) : t.outbox = s.outbox := by
  cases step with
  | look | delayed | finished => rfl
  | flushed found waiting | ended found waiting => simp [subject?, found, waiting] at about
  | _ => exact absurd about.symm (Option.some_ne_none subject)

/-- An outbox that stays as it is overlooks nothing. -/
theorem overlooked_of_outbox (same : t.outbox = s.outbox) :
    overlooked ⟨s, c, t, reports⟩ = [] := by
  refine List.filter_eq_nil_iff.mpr fun batch hb => ?_
  have held : batch ∈ t.held := mem_held.mpr (.inl (same ▸ hb))
  simp [losesSight, held]

theorem progress?_replace {old new : Progress} (known : s.progress? batch = some old) :
    { s with deliveries := replace s.deliveries batch new }.progress? batch = some new :=
  lookup_replace_self (by rw [← progress?, known, Option.isSome_some])

namespace HeldOnce

variable (h : s.HeldOnce)
include h

/-- A choice that is about no delivery: a crash that is not held any more is overlooked. -/
theorem balance_of_none (step : s.Moves c t reports) (none : s.subject? c = none) (batch : Nat) :
    (overlooked ⟨s, c, t, reports⟩).count batch + (t.isOwed batch).toNat
      = (s.isOwed batch).toNat := by
  have passes := h.passes step none
  rw [count_overlooked h.once]
  cases known : s.progress? batch with
  | none =>
    -- The batch is not there yet, or it is handed over just now.
    have before : s.isFinished batch = false := by rw [isFinished, known, Option.any_none]
    have after : t.isFinished batch = false := (passes.finished batch).trans before
    rw [isOwed_of_active before, isOwed_of_active after, losesSight, hasCrashed, known]
    simp
  | some progress =>
    have begun := h.tracked.lt_of_progress? known
    rw [isOwed_of_progress? known, isOwed_of_progress? (passes.progress batch progress known)]
    simp only [losesSight, hasCrashed_of_progress? known]
    cases crashed : progress.isCrashed with
    | false => simp
    | true =>
      rw [Progress.isEnded_of_isCrashed crashed]
      by_cases after : batch ∈ t.held
      · have before := passes.mem_held_of_mem begun after
        simp [after, before]
      · have apart : batch ∉ awaited s.callers := mt (passes.awaited batch) after
        have held : batch ∈ s.held ↔ batch ∈ s.outbox.deliveries := by simp [mem_held, apart]
        simp [after, held]

/-- A caller looks at a delivery: it says so if this has crashed, and from then on nothing is owed. -/
theorem balance_of_look {n first : Nat} {caller : Caller} {rest : List Nat} {progress : Progress}
    (found : s.callers.lookup n = some caller) (waiting : caller.waiting = first :: rest)
    (known : s.progress? first = some progress) (gone : progress.isEnded = true) :
    (finalNotices ((afterwards progress).map .effect)).length
      + ({ s with callers := replace s.callers n { caller with waiting := rest } }.isOwed first).toNat
      = (s.isOwed first).toNat := by
  have given := perm_held_look h.distinct found waiting
  have before : first ∈ s.held := given.mem_iff.mpr List.mem_cons_self
  have after := (List.nodup_cons.mp (given.nodup_iff.mp h.once)).1
  have still : { s with
      callers := replace s.callers n { caller with waiting := rest } }.progress? first
      = some progress := known
  rw [length_final_afterwards gone, isOwed_of_progress? known, isOwed_of_progress? still, gone]
  simp [before, after]

/-- A delivery goes on or ends: if it crashes, the last word about it is still owed by who holds
it. -/
theorem balance_of_attempt {draw : Duration} {outcome : Delivery.Outcome} {delivery : Delivery}
    {said : List Notice} {sequel : Delivery.Sequel} {progress : Progress}
    (known : s.progress? batch = some (.active delivery))
    (received : delivery.receive draw outcome = (said, sequel))
    (told : sequel.isTold = (progress.isEnded && !progress.isCrashed)) :
    (said.filter Notice.isFinal).length
      + ({ s with deliveries := replace s.deliveries batch progress }.isOwed batch).toNat
      = (s.isOwed batch).toNat := by
  have active : s.isFinished batch = false := isFinished_of_progress? known
  have held : batch ∈ { s with deliveries := replace s.deliveries batch progress }.held :=
    h.tracked.mem_held (h.tracked.lt_of_progress? known) active
  have spoken := delivery.length_final_receive draw outcome
  rw [received] at spoken
  rw [spoken, told, isOwed_of_active active, isOwed_of_progress? (progress?_replace known)]
  cases progress.isEnded <;> cases progress.isCrashed <;> simp [held]

/-- A step has nothing final to say about a batch that its choice is not about, and does not change
what is owed about it. -/
theorem isOwed_of_other (step : s.Moves c t reports) {subject : Nat}
    (about : s.subject? c = some subject) (other : batch ≠ subject) :
    t.isOwed batch = s.isOwed batch := by
  cases step with
  | @look n caller first rest progress found waiting =>
    obtain rfl : first = subject := by simpa [subject?, found, waiting] using about
    have given := perm_held_look h.distinct found waiting
    refine isOwed_congr rfl ?_
    rw [given.mem_iff, List.mem_cons, or_iff_right other]
  | delayed | finished =>
    obtain rfl := Option.some.inj about
    exact isOwed_congr (lookup_replace_of_ne other) Iff.rfl
  | flushed found waiting | ended found waiting => simp [subject?, found, waiting] at about
  | _ => exact absurd about.symm (Option.some_ne_none subject)

/-- The choice is about a batch: either its last word is said, or it is owed as before. -/
theorem balance_of_subject (step : s.Moves c t reports) (about : s.subject? c = some batch) :
    (finalNotices reports).length + (t.isOwed batch).toNat = (s.isOwed batch).toNat := by
  cases step with
  | @look n caller first rest progress found waiting known gone =>
    obtain rfl : first = batch := by simpa [subject?, found, waiting] using about
    exact h.balance_of_look found waiting known gone
  | delayed known received =>
    obtain rfl := Option.some.inj about
    rw [finalNotices_notices _ _ rfl]
    exact h.balance_of_attempt known received rfl
  | @finished _ _ _ _ _ ending known received =>
    obtain rfl := Option.some.inj about
    rw [finalNotices_notices _ _ rfl]
    exact h.balance_of_attempt known received (by cases ending <;> rfl)
  | flushed found waiting | ended found waiting => simp [subject?, found, waiting] at about
  | _ => exact absurd about.symm (Option.some_ne_none batch)

/-- In every step the last word about a batch is said, or a crash is overlooked, or the last word is
owed as before. -/
theorem balance (step : s.Moves c t reports) (batch : Nat) :
    (lastWordsIn batch ⟨s, c, t, reports⟩).length + (overlooked ⟨s, c, t, reports⟩).count batch
      + (t.isOwed batch).toNat = (s.isOwed batch).toNat := by
  cases about : s.subject? c with
  | none =>
    have silent : lastWordsIn batch ⟨s, c, t, reports⟩ = [] := if_neg (by simp [about])
    rw [silent, List.length_nil, Nat.zero_add]
    exact h.balance_of_none step about batch
  | some subject =>
    rw [overlooked_of_outbox (step.outbox_of_subject about), List.count_nil, Nat.add_zero]
    by_cases same : subject = batch
    · subst same
      have spoken : lastWordsIn subject ⟨s, c, t, reports⟩ = finalNotices reports := if_pos about
      rw [spoken]
      exact h.balance_of_subject step about
    · have silent : lastWordsIn batch ⟨s, c, t, reports⟩ = [] := if_neg (by simp [about, same])
      rw [silent, List.length_nil, Nat.zero_add, h.isOwed_of_other step about (Ne.symm same)]

end HeldOnce

/-! ### Runs -/

/-- Whether a choice is a call to stop. -/
def Label.isStop : Label → Bool
  | .stop _ => true
  | _ => false

/-- The crashed deliveries that the outbox forgets in a run. -/
def overlookedIn (run : List (Step System Label Report)) : List Nat := run.flatMap overlooked

/-- In every run each batch has its last word once, or its crash is overlooked once, or its last word
is still owed. -/
theorem balance_of_run (settings : OutboxSettings) (labels : List Label) (batch : Nat) :
    (lastWords batch (Run.steps next? { settings } labels)).length
      + (overlookedIn (Run.steps next? { settings } labels)).count batch
      + ((Run.final next? { settings } labels).isOwed batch).toNat = 1 := by
  suffices HeldOnce (Run.final next? { settings } labels) ∧ _ from this.2
  refine Run.induction (motive := fun past s => s.HeldOnce ∧
    (lastWords batch past).length + (overlookedIn past).count batch + (s.isOwed batch).toNat = 1)
    ⟨.initial settings, rfl⟩ ?_ labels
  rintro past s c t reports ⟨held, sum⟩ step
  have moves := moves_of_next? step
  refine ⟨held.next moves, ?_⟩
  have missed : overlookedIn (past ++ [⟨s, c, t, reports⟩])
      = overlookedIn past ++ overlooked ⟨s, c, t, reports⟩ := by simp [overlookedIn]
  have last := held.balance moves batch
  rw [lastWords_append, missed, List.length_append, List.count_append]
  omega

theorem Moves.isOver_of_isStop (step : s.Moves c t reports) (stops : c.isStop = true) :
    t.outbox.status.state.isOver = true := by
  cases step with
  | stop =>
    rw [withCaller_outbox, applied_outbox]
    exact isOver_beginStop ..
  | stopped =>
    rw [applied_outbox]
    exact isOver_beginStop ..
  | _ => exact absurd stops Bool.false_ne_true

/-- After a call to stop the outbox is over for good. -/
theorem isOver_of_stopped (settings : OutboxSettings) (labels : List Label)
    (stopped : ∃ step ∈ Run.steps next? { settings } labels, step.choice.isStop = true) :
    (Run.final next? { settings } labels).outbox.status.state.isOver = true := by
  refine (Run.induction (motive := fun past s => s.HeldOnce ∧
    ((∃ step ∈ past, step.choice.isStop = true) → s.outbox.status.state.isOver = true))
    ⟨.initial settings, fun ⟨_, absent, _⟩ => absurd absent List.not_mem_nil⟩ ?_ labels).2 stopped
  rintro past s c t reports ⟨held, closed⟩ step
  have moves := moves_of_next? step
  refine ⟨held.next moves, fun ⟨last, hl, stops⟩ => ?_⟩
  rcases List.mem_append.mp hl with hl | hl
  · exact (held.tracked.ordered.leads moves).isOver (closed ⟨last, hl, stops⟩)
  · rw [List.mem_singleton.mp hl] at stops
    exact moves.isOver_of_isStop stops

/-- Where the outbox is over and no caller waits, no last word is owed. -/
theorem HeldOnce.isOwed_of_over (h : s.HeldOnce) (closed : s.outbox.status.state.isOver = true)
    (quiet : s.callers = []) (begun : batch < s.outbox.handedOver) : s.isOwed batch = false := by
  have idle := State.ne_running_of_isOver closed
  have none : s.held = [] := by
    rw [held, h.idle idle, quiet]
    rfl
  have ended : s.isFinished batch = true := by
    refine Bool.of_not_eq_false fun active => ?_
    have held := h.tracked.mem_held begun active
    rw [none] at held
    exact List.not_mem_nil held
  simp [isOwed, ended, none]

theorem Tracked.lt_of_isOwed (h : s.Tracked) (settled : s.isOwed batch = false) :
    batch < s.outbox.handedOver := by
  cases known : s.progress? batch with
  | none => simp [isOwed, isFinished, known] at settled
  | some progress => exact h.lt_of_progress? known

/-- Let the outbox be stopped in a run, and let no call wait any more at its end. Then every batch has
had exactly one final notice if and only if the outbox has never forgotten a delivery that had
crashed. -/
theorem lastWord_iff (settings : OutboxSettings) (labels : List Label)
    (stopped : ∃ step ∈ Run.steps next? { settings } labels, step.choice.isStop = true)
    (quiet : (Run.final next? { settings } labels).callers = []) :
    (∀ batch < (Run.final next? { settings } labels).outbox.handedOver,
        (lastWords batch (Run.steps next? { settings } labels)).length = 1) ↔
      ∀ step ∈ Run.steps next? { settings } labels, overlooked step = [] := by
  have held := heldOnce_final settings labels
  have closed := isOver_of_stopped settings labels stopped
  constructor
  · intro told step hs
    refine List.eq_nil_iff_forall_not_mem.mpr fun batch missed => ?_
    have sum := balance_of_run settings labels batch
    have counted : 0 < (overlookedIn (Run.steps next? { settings } labels)).count batch :=
      List.count_pos_iff.mpr (List.mem_flatMap.mpr ⟨step, hs, missed⟩)
    -- Its one word is used up by the crash that was overlooked, so none is owed and none was said.
    have settled : (Run.final next? { settings } labels).isOwed batch = false :=
      Bool.toNat_eq_zero.mp (by omega)
    have word := told batch (held.tracked.lt_of_isOwed settled)
    omega
  · intro seen batch begun
    have sum := balance_of_run settings labels batch
    have none : overlookedIn (Run.steps next? { settings } labels) = [] :=
      List.flatMap_eq_nil_iff.mpr seen
    rw [none, held.isOwed_of_over closed quiet begun] at sum
    exact sum

/-- Choices that lead to a batch under way. -/
def oneBatch : List Label :=
  [.start true, .update (.integrated ⟨"key", "https://host", "", []⟩),
    .send "id" ⟨"", "seen", [("vuid", "u")], []⟩]

/-- Choices by which the batch crashes while a call to stop waits for it. -/
def crashWhileStopping : List Label :=
  oneBatch ++ [.stop 0, .attempt 0 .none .crashed, .resume 0, .resume 0]

/-- The caller says that the delivery has crashed. -/
theorem lastWord_of_crash_while_stopping :
    (lastWords 0
      (Run.steps next? { settings := { disposable := true } } crashWhileStopping)).length = 1 :=
  (lastWord_iff { disposable := true } crashWhileStopping (by decide) rfl).mpr (by decide) 0
    (by decide)

/-- A delivery that crashes before the call to stop is forgotten by it, and nobody ever says so. -/
theorem not_lastWord_of_crash_before_stop :
    ¬ ∀ (settings : OutboxSettings) (labels : List Label),
      (∃ step ∈ Run.steps next? { settings } labels, step.choice.isStop = true) →
      (Run.final next? { settings } labels).callers = [] →
      ∀ batch < (Run.final next? { settings } labels).outbox.handedOver,
        (lastWords batch (Run.steps next? { settings } labels)).length = 1 := by
  intro claim
  have law := claim { disposable := true }
    (oneBatch ++ [.attempt 0 .none .crashed, .stop 0, .resume 0]) (by decide) rfl 0 (by decide)
  exact absurd law (by decide)

end System

end Outbox

end Targeting.Platform
