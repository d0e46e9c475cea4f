import Targeting.Platform.Outbox.System
import Targeting.Proofs.Outbox.Flush

/-!
# The steps of the outbox at work

A step of the system is a step of the outbox, an outcome of an attempt, or a look of a waiting
caller. Here stands what each of them leaves behind, part by part, so that an invariant of the whole
system has to look at nothing but the step of the outbox that it is about.

## Main definitions

* `System.effectsOf`, `System.returnsOf` — the effects, and the calls that return, among the reports
* `System.Moves` — what a step does, as a relation

## Main results

* `System.applied_fst` — what the effects of the outbox do to the deliveries and the timers
* `System.moves_of_next?` — the relation holds of every step
* `System.Moves.isFinished_of_isFinished` — a delivery that has ended stays so
-/

namespace Targeting.Platform.Outbox

namespace Effect

/-- The timer that an effect sets. -/
def armed? : Effect → Option Nat
  | armed generation => some generation
  | _ => none

end Effect

namespace System

variable {s t : System} {o : Outbox} {effects : List Effect} {reports : List Report}

/-! ### What is known by numbers -/

section Numbered

variable {α : Type} {xs : List (Nat × α)} {n m : Nat} {x : α}

theorem mem_of_lookup (h : xs.lookup n = some x) : (n, x) ∈ xs := by
  obtain ⟨before, after, rfl, -⟩ := List.lookup_eq_some_iff.mp h
  exact List.mem_append_right before List.mem_cons_self

theorem mem_replace {entry : Nat × α} (h : entry ∈ replace xs n x) :
    entry ∈ xs ∨ entry = (n, x) := by
  obtain ⟨⟨m, y⟩, hm, rfl⟩ := List.mem_map.mp h
  by_cases same : m = n
  · exact .inr (by simp [same])
  · exact .inl (by simpa [same] using hm)

theorem keys_replace (xs : List (Nat × α)) (n : Nat) (x : α) :
    (replace xs n x).map Prod.fst = xs.map Prod.fst := by
  rw [replace, List.map_map]
  refine List.map_congr_left fun ⟨m, y⟩ _ => ?_
  by_cases same : m = n <;> simp [same]

theorem lookup_replace_self (h : (xs.lookup n).isSome = true) :
    (replace xs n x).lookup n = some x := by
  -- Every entry under the number is replaced, and the first one is found.
  induction xs with
  | nil => exact absurd h (by simp)
  | cons entry xs ih =>
    obtain ⟨m, y⟩ := entry
    by_cases same : m = n
    · simp [replace, same]
    · have other : (n == m) = false := beq_eq_false_iff_ne.mpr (Ne.symm same)
      rw [List.lookup_cons, other] at h
      simpa [replace, same, List.lookup_cons, other] using ih h

theorem lookup_replace_of_ne (h : m ≠ n) : (replace xs n x).lookup m = xs.lookup m := by
  induction xs with
  | nil => rfl
  | cons entry xs ih =>
    obtain ⟨k, y⟩ := entry
    have key : (replace ((k, y) :: xs) n x).lookup m
        = ((k, if k = n then x else y) :: replace xs n x).lookup m := by
      by_cases same : k = n <;> simp [replace, same]
    rw [key, List.lookup_cons, List.lookup_cons, ih]
    by_cases here : m = k
    · have other : k ≠ n := here ▸ h
      simp [here, other]
    · simp [beq_eq_false_iff_ne.mpr here]

theorem lookup_without_of_ne (h : m ≠ n) : (without xs n).lookup m = xs.lookup m := by
  induction xs with
  | nil => rfl
  | cons entry xs ih =>
    obtain ⟨k, y⟩ := entry
    by_cases same : k = n
    · have other : m ≠ k := same ▸ h
      rw [List.lookup_cons, beq_eq_false_iff_ne.mpr other, ← ih]
      simp [without, same]
    · have keep : without ((k, y) :: xs) n = (k, y) :: without xs n := by simp [without, same]
      rw [keep, List.lookup_cons, List.lookup_cons, ih]

end Numbered

/-! ### Reports -/

/-- The effect that a report is about. -/
def Report.effect? : Report → Option Effect
  | effect e => some e
  | _ => none

/-- The caller whose call returns. -/
def Report.returned? : Report → Option Nat
  | returned n => some n
  | _ => none

/-- The callers whose calls return. -/
def returnsOf (reports : List Report) : List Nat := reports.filterMap Report.returned?

@[simp] theorem returnsOf_append (rs qs : List Report) :
    returnsOf (rs ++ qs) = returnsOf rs ++ returnsOf qs :=
  List.filterMap_append

@[simp] theorem returnsOf_map {α : Type} (xs : List α) (f : α → Effect) :
    returnsOf (xs.map fun x => .effect (f x)) = [] :=
  List.filterMap_eq_nil_iff.mpr (List.forall_mem_map.mpr fun _ _ => rfl)

@[simp] theorem returnsOf_effects (effects : List Effect) : returnsOf (effects.map .effect) = [] :=
  returnsOf_map effects id

@[simp] theorem returnsOf_returned (n : Nat) : returnsOf [.returned n] = [n] := rfl

@[simp] theorem returnsOf_started (result : Except Failure Unit) :
    returnsOf [.started result] = [] := rfl

@[simp] theorem returnsOf_waits (batch : Nat) (delay : Duration) :
    returnsOf [.waits batch delay] = [] := rfl

@[simp] theorem returnsOf_ended (batch : Nat) (ending : Delivery.Ending) :
    returnsOf [.ended batch ending] = [] := rfl

/-- The effects among some reports. -/
def effectsOf (reports : List Report) : List Effect := reports.filterMap Report.effect?

@[simp] theorem effectsOf_append (rs qs : List Report) :
    effectsOf (rs ++ qs) = effectsOf rs ++ effectsOf qs :=
  List.filterMap_append

@[simp] theorem effectsOf_map (effects : List Effect) :
    effectsOf (effects.map .effect) = effects := by
  rw [effectsOf, List.filterMap_map]
  exact List.filterMap_some

@[simp] theorem effectsOf_notices (notices : List Notice) :
    effectsOf (notices.map fun notice => Report.effect (.said notice)) = notices.map .said := by
  rw [← effectsOf_map (notices.map .said), List.map_map]
  rfl

/-! ### Steps of the outbox -/

/-- The delivery that begins when a batch is handed over. -/
def launch (settings : OutboxSettings) (h : Nat × Config × List Event) : Nat × Progress :=
  (h.1, .active (.ofRule settings.retryRule h.2.1 h.2.2))

theorem foldl_absorb (effects : List Effect) (s : System) :
    effects.foldl absorb s = { s with
      deliveries := s.deliveries ++ (handovers effects).map (launch s.settings)
      timers := s.timers ++ effects.filterMap Effect.armed? } := by
  induction effects generalizing s with
  | nil => simp [handovers]
  | cons e effects ih =>
    rw [List.foldl_cons, ih]
    cases e <;>
      simp [absorb, handovers, List.filterMap_cons, Effect.handover?, Effect.armed?, launch]

theorem applied_fst (s : System) (o : Outbox) (effects : List Effect) :
    (s.applied o effects).1 = { s with
      outbox := o
      deliveries := s.deliveries ++ (handovers effects).map (launch s.settings)
      timers := s.timers ++ effects.filterMap Effect.armed? } := by
  rw [applied, foldl_absorb]

section Applied

variable (s : System) (o : Outbox) (effects : List Effect)

@[simp] theorem applied_outbox : (s.applied o effects).1.outbox = o := by
  rw [applied_fst]

@[simp] theorem applied_settings : (s.applied o effects).1.settings = s.settings := by
  rw [applied_fst]

@[simp] theorem applied_timers :
    (s.applied o effects).1.timers = s.timers ++ effects.filterMap Effect.armed? := by
  rw [applied_fst]

@[simp] theorem applied_callers : (s.applied o effects).1.callers = s.callers := by
  rw [applied_fst]

@[simp] theorem applied_deliveries : (s.applied o effects).1.deliveries
    = s.deliveries ++ (handovers effects).map (launch s.settings) := by
  rw [applied_fst]

end Applied

section WithCaller

variable (s : System) (n : Nat) (caller : Caller)

@[simp] theorem withCaller_outbox : (s.withCaller n caller).outbox = s.outbox := rfl

@[simp] theorem withCaller_settings : (s.withCaller n caller).settings = s.settings := rfl

@[simp] theorem withCaller_timers : (s.withCaller n caller).timers = s.timers := rfl

@[simp] theorem withCaller_deliveries : (s.withCaller n caller).deliveries = s.deliveries := rfl

@[simp] theorem withCaller_callers :
    (s.withCaller n caller).callers = s.callers ++ [(n, caller)] := rfl

theorem lookup_withCaller_of_some {m : Nat} {other : Caller}
    (found : s.callers.lookup m = some other) :
    (s.withCaller n caller).callers.lookup m = some other := by
  rw [withCaller_callers, List.lookup_append, found, Option.some_or]

theorem lookup_withCaller_self (free : s.isWaiting n = false) :
    (s.withCaller n caller).callers.lookup n = some caller := by
  have absent : s.callers.lookup n = none := by simpa [isWaiting] using free
  rw [withCaller_callers, List.lookup_append, absent, Option.none_or, List.lookup_cons_self]

end WithCaller

/-! ### Ends of deliveries -/

theorem isFinished_congr (same : t.deliveries = s.deliveries) (batch : Nat) :
    t.isFinished batch = s.isFinished batch := by
  rw [isFinished, isFinished, progress?, progress?, same]

theorem isFinished_of_progress? {batch : Nat} {progress : Progress}
    (known : s.progress? batch = some progress) : s.isFinished batch = progress.isEnded := by
  rw [isFinished, known, Option.any_some]

/-- What is handed over is under way at first. -/
theorem isFinished_applied (s : System) (o : Outbox) (effects : List Effect) (batch : Nat) :
    (s.applied o effects).1.isFinished batch = s.isFinished batch := by
  -- A number that is known only now belongs to a delivery that begins.
  have launched : (((handovers effects).map (launch s.settings)).lookup batch).any Progress.isEnded
      = false := by
    cases found : ((handovers effects).map (launch s.settings)).lookup batch with
    | none => rfl
    | some progress =>
      obtain ⟨h, -, same⟩ := List.mem_map.mp (mem_of_lookup found)
      rw [← (Prod.mk.inj same).2]
      rfl
  rw [isFinished, isFinished, progress?, progress?, applied_deliveries, List.lookup_append]
  cases s.deliveries.lookup batch with
  | none => exact launched
  | some progress => rfl

/-! ### All steps -/

/-- What a step does, as a relation: each constructor names what its choice finds and what it
leaves. -/
inductive Moves (s : System) : Label → System → List Report → Prop
  | start (inRuntime : Bool) :
      Moves s (.start inRuntime)
        (s.applied (s.outbox.start inRuntime).2.1 (s.outbox.start inRuntime).2.2).1
        ((s.outbox.start inRuntime).2.2.map .effect ++ [.started (s.outbox.start inRuntime).1])
  | update (integration : Integration) :
      Moves s (.update integration)
        (s.applied (s.outbox.update s.isFinished integration).1
          (s.outbox.update s.isFinished integration).2).1
        ((s.outbox.update s.isFinished integration).2.map .effect)
  | send (id : String) (event : Event) :
      Moves s (.send id event)
        (s.applied (s.outbox.send s.settings s.isFinished id event).1
          (s.outbox.send s.settings s.isFinished id event).2).1
        ((s.outbox.send s.settings s.isFinished id event).2.map .effect)
  | flush {n : Nat} (free : s.isWaiting n = false) :
      Moves s (.flush n)
        ((s.applied (s.outbox.beginFlush s.isFinished).2.1
          (s.outbox.beginFlush s.isFinished).2.2).1.withCaller n
            ⟨.flush, (s.outbox.beginFlush s.isFinished).1⟩)
        ((s.outbox.beginFlush s.isFinished).2.2.map .effect)
  /-- A call to stop that has deliveries to wait for. -/
  | stop {n : Nat} {waiting : List Nat} (free : s.isWaiting n = false)
      (waits : (s.outbox.beginStop s.isFinished).1 = some waiting) :
      Moves s (.stop n)
        ((s.applied (s.outbox.beginStop s.isFinished).2.1
          (s.outbox.beginStop s.isFinished).2.2).1.withCaller n ⟨.stop, waiting⟩)
        ((s.outbox.beginStop s.isFinished).2.2.map .effect)
  /-- A call to stop that returns at once. -/
  | stopped {n : Nat} (free : s.isWaiting n = false)
      (waits : (s.outbox.beginStop s.isFinished).1 = none) :
      Moves s (.stop n)
        (s.applied (s.outbox.beginStop s.isFinished).2.1
          (s.outbox.beginStop s.isFinished).2.2).1
        ((s.outbox.beginStop s.isFinished).2.2.map .effect ++ [.returned n])
  /-- A waiting caller finds that the first delivery has ended. -/
  | look {n : Nat} {caller : Caller} {batch : Nat} {rest : List Nat} {progress : Progress}
      (found : s.callers.lookup n = some caller) (waiting : caller.waiting = batch :: rest)
      (known : s.progress? batch = some progress) (gone : progress.isEnded = true) :
      Moves s (.resume n) { s with callers := replace s.callers n { caller with waiting := rest } }
        ((afterwards progress).map .effect)
  /-- A call to flush that has nothing to wait for any more returns. -/
  | flushed {n : Nat} {caller : Caller} (found : s.callers.lookup n = some caller)
      (waiting : caller.waiting = []) (purpose : caller.purpose = .flush) :
      Moves s (.resume n) { s with callers := without s.callers n } [.returned n]
  /-- A call to stop that has nothing to wait for any more ends the outbox and returns. -/
  | ended {n : Nat} {caller : Caller} (found : s.callers.lookup n = some caller)
      (waiting : caller.waiting = []) (purpose : caller.purpose = .stop) :
      Moves s (.resume n)
        { s with outbox := s.outbox.endStop.1, callers := without s.callers n }
        [.effect (.said .stopped), .returned n]
  | fire {generation : Nat} (set : s.timers.contains generation = true) :
      Moves s (.fire generation)
        ({ s with timers := s.timers.erase generation }.applied
          (s.outbox.fire s.isFinished generation).1
          (s.outbox.fire s.isFinished generation).2).1
        ((s.outbox.fire s.isFinished generation).2.map .effect)
  /-- A delivery waits before its next attempt. -/
  | delayed {batch : Nat} {draw delay : Duration} {outcome : Delivery.Outcome}
      {delivery next : Delivery} {said : List Notice}
      (known : s.progress? batch = some (.active delivery))
      (received : delivery.receive draw outcome = (said, .wait delay next)) :
      Moves s (.attempt batch draw outcome)
        { s with deliveries := replace s.deliveries batch (.active next) }
        (said.map (fun notice => .effect (.said notice)) ++ [.waits batch delay])
  /-- A delivery ends with an attempt. -/
  | finished {batch : Nat} {draw : Duration} {outcome : Delivery.Outcome} {delivery : Delivery}
      {said : List Notice} {ending : Delivery.Ending}
      (known : s.progress? batch = some (.active delivery))
      (received : delivery.receive draw outcome = (said, .ended ending)) :
      Moves s (.attempt batch draw outcome)
        { s with deliveries := replace s.deliveries batch (.ended ending) }
        (said.map (fun notice => .effect (.said notice)) ++ [.ended batch ending])

/-- A waiting caller goes on to the next delivery if the first one has ended, and returns when there
is none left. -/
theorem moves_of_resume? {n : Nat} (h : s.resume? n = some (t, reports)) :
    s.Moves (.resume n) t reports := by
  obtain ⟨caller, found, h⟩ := Option.bind_eq_some_iff.mp h
  split at h
  · next waiting =>
    cases purpose : caller.purpose <;> rw [purpose] at h
    · obtain ⟨rfl, rfl⟩ := Prod.mk.inj (Option.some.inj h)
      exact .flushed found waiting purpose
    · obtain ⟨rfl, rfl⟩ := Prod.mk.inj (Option.some.inj h)
      exact .ended found waiting purpose
  · next batch rest waiting =>
    obtain ⟨progress, known, h⟩ := Option.bind_eq_some_iff.mp h
    split at h
    · next gone =>
      obtain ⟨rfl, rfl⟩ := Prod.mk.inj (Option.some.inj h)
      exact .look found waiting known gone
    · exact absurd h (by simp)

theorem moves_of_attempted? {batch : Nat} {draw : Duration} {outcome : Delivery.Outcome}
    (h : s.attempted? batch draw outcome = some (t, reports)) :
    s.Moves (.attempt batch draw outcome) t reports := by
  unfold attempted? at h
  split at h
  · next delivery known =>
    rcases received : delivery.receive draw outcome with ⟨said, sequel⟩
    rw [received] at h
    cases sequel with
    | wait delay next =>
      obtain ⟨rfl, rfl⟩ := Prod.mk.inj (Option.some.inj h)
      exact .delayed known received
    | ended ending =>
      obtain ⟨rfl, rfl⟩ := Prod.mk.inj (Option.some.inj h)
      exact .finished known received
  · exact absurd h (by simp)

/-- Every step is one of these. -/
theorem moves_of_next? {c : Label} (h : s.next? c = some (t, reports)) : s.Moves c t reports := by
  cases c with
  | start inRuntime =>
    obtain ⟨rfl, rfl⟩ := Prod.mk.inj (Option.some.inj h)
    exact .start inRuntime
  | update integration =>
    obtain ⟨rfl, rfl⟩ := Prod.mk.inj (Option.some.inj h)
    exact .update integration
  | send id event =>
    obtain ⟨rfl, rfl⟩ := Prod.mk.inj (Option.some.inj h)
    exact .send id event
  | flush n =>
    cases free : s.isWaiting n with
    | true =>
      rw [next?, free] at h
      exact absurd h (by simp)
    | false =>
      rw [next?, free] at h
      obtain ⟨rfl, rfl⟩ := Prod.mk.inj (Option.some.inj h)
      exact .flush free
  | stop n =>
    cases free : s.isWaiting n with
    | true =>
      rw [next?, free] at h
      exact absurd h (by simp)
    | false =>
      cases waits : (s.outbox.beginStop s.isFinished).1 with
      | none =>
        simp only [next?, free, waits, Bool.false_eq_true, if_false] at h
        obtain ⟨rfl, rfl⟩ := Prod.mk.inj (Option.some.inj h)
        exact .stopped free waits
      | some waiting =>
        simp only [next?, free, waits, Bool.false_eq_true, if_false] at h
        obtain ⟨rfl, rfl⟩ := Prod.mk.inj (Option.some.inj h)
        exact .stop free waits
  | resume n => exact moves_of_resume? h
  | fire generation =>
    cases set : s.timers.contains generation with
    | false =>
      rw [next?, set] at h
      exact absurd h (by simp)
    | true =>
      rw [next?, set] at h
      obtain ⟨rfl, rfl⟩ := Prod.mk.inj (Option.some.inj h)
      exact .fire set
  | attempt batch draw outcome => exact moves_of_attempted? h

/-- A delivery that has ended stays so. -/
theorem Moves.isFinished_of_isFinished {c : Label} (h : s.Moves c t reports) {batch : Nat}
    (finished : s.isFinished batch = true) : t.isFinished batch = true := by
  cases h with
  | @delayed changed _ _ _ _ _ _ known | @finished changed _ _ _ _ _ known =>
    -- The delivery that moves on is under way, so it is another one.
    have other : batch ≠ changed := by
      rintro rfl
      rw [isFinished_of_progress? known] at finished
      exact Bool.false_ne_true finished
    rwa [isFinished, progress?, lookup_replace_of_ne other]
  | flush | stop =>
    rwa [isFinished_congr (withCaller_deliveries ..), isFinished_applied]
  | look | flushed | ended => exact finished
  | fire =>
    -- The timer is taken out first, which the deliveries do not notice.
    rw [isFinished_applied]
    exact finished
  | _ => rwa [isFinished_applied]

end System

end Targeting.Platform.Outbox
