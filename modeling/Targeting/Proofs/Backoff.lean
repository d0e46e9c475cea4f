import Mathlib.Algebra.Group.Nat.Defs
import Mathlib.Data.List.Induction
import Mathlib.Order.MinMax
import Targeting.Platform.Backoff

/-!
# Delays that double

A batch asks for one delay after another, and may start again at any time. The delay that is *due* after
some others is the base, doubled as often, or the greatest delay if this is shorter. A backoff that
returns what is due, with a random part on top, whatever was called before, is *exponential*.

Not every backoff is. Nothing caps the base, so a base beyond the greatest delay is returned as it is. And
the current delay is doubled before it is capped, so calls fail once it is half of what can be stored,
although what they were to return can be stored. Apart from these two cases every backoff whose greatest
delay and greatest random part can be stored together is exponential.

## Main definitions

* `Backoff.Call`, `Backoff.run?`, `Backoff.answer?` — calls, the delays after some of them, and what the
  next call returns
* `Backoff.taken`, `Backoff.due` — how many delays were taken since the last reset, and what is due then
* `Backoff.IsExponential` — every call returns what is due, with a random part

## Main results

* `Backoff.next?_doubling` — one call, if what is due is the current delay
* `Backoff.eq_of_run?` — what is due is the current delay after any calls
* `Backoff.isExponential_iff` — the backoffs that are exponential
* `Backoff.not_isExponential` — two that are not
-/

namespace Targeting.Platform

namespace Duration

theorem min_le_right (d e : Duration) : (d.min e).nanoseconds ≤ e.nanoseconds := by
  rw [nanoseconds_min]
  exact Nat.min_le_right ..

/-- Whether a delay can be doubled, and a random part be added to it. -/
structure LeavesRoom (d draw : Duration) : Prop where
  doubled : 2 * d.nanoseconds < limit
  sum : d.nanoseconds + draw.nanoseconds < limit

theorem LeavesRoom.mono {d e draw jitter : Duration} (h : d.LeavesRoom jitter)
    (le : e.nanoseconds ≤ d.nanoseconds) (fits : draw.nanoseconds ≤ jitter.nanoseconds) :
    e.LeavesRoom draw :=
  ⟨(Nat.mul_le_mul_left 2 le).trans_lt h.doubled, (Nat.add_le_add le fits).trans_lt h.sum⟩

end Duration

namespace Backoff

/-! ### Calls -/

/-- A call on the delays of a batch. -/
inductive Call where
  /-- The next delay is asked for; its random part is given. -/
  | next (draw : Duration)
  | reset

/-- Whether the random part of a delay is at most the greatest one. -/
def Call.FitsIn (jitter : Duration) : Call → Prop
  | next draw => draw.nanoseconds ≤ jitter.nanoseconds
  | reset => True

/-- The delays after a call; none if it fails. -/
def call? (b : Backoff) : Call → Option Backoff
  | .next draw => (b.next? draw).map Prod.snd
  | .reset => some b.reset

/-- The delays after some calls; none if one of them fails. -/
def run? (b : Backoff) (calls : List Call) : Option Backoff := calls.foldlM call? b

/-- What a call for a delay returns after some calls; none if it fails, or one of them does. -/
def answer? (b : Backoff) (calls : List Call) (draw : Duration) : Option Duration :=
  (b.run? calls).bind fun c => (c.next? draw).map Prod.fst

/-- How many delays were taken since the last reset, one call later. -/
def Call.count (taken : Nat) : Call → Nat
  | next _ => taken + 1
  | reset => 0

/-- How many delays were taken since the last reset, or since the start if there was none. -/
def taken (calls : List Call) : Nat := calls.foldl Call.count 0

/-- The delay that is due after some others, without a random part: the base, doubled as often, or the
greatest delay if this is shorter. -/
def due (base greatest : Duration) (taken : Nat) : Duration :=
  .min ⟨base.nanoseconds * 2 ^ taken⟩ greatest

/-- Whatever was called before, every call for a delay returns one, namely what is due with some random
part up to the greatest one. So no delay is longer than the greatest delay with the greatest random part,
and without random parts no delay is shorter than an earlier one, as long as there is no reset. -/
structure IsExponential (base greatest jitter : Duration) : Prop where
  returns : ∀ calls, (∀ call ∈ calls, call.FitsIn jitter) →
    ∀ draw, draw.nanoseconds ≤ jitter.nanoseconds →
      ∃ delay, (ofBase base greatest jitter).answer? calls draw = some delay ∧
        (due base greatest (taken calls)).nanoseconds ≤ delay.nanoseconds ∧
        delay.nanoseconds ≤ (due base greatest (taken calls)).nanoseconds + jitter.nanoseconds
  capped : ∀ calls, (∀ call ∈ calls, call.FitsIn jitter) →
    ∀ draw, draw.nanoseconds ≤ jitter.nanoseconds →
      ∀ delay, (ofBase base greatest jitter).answer? calls draw = some delay →
        delay.nanoseconds ≤ greatest.nanoseconds + jitter.nanoseconds
  grows : ∀ calls, (∀ call ∈ calls, call.FitsIn jitter) →
    ∀ draws : List Duration, (∀ draw ∈ draws, draw.nanoseconds ≤ jitter.nanoseconds) →
      ∀ earlier later, (ofBase base greatest jitter).answer? calls .none = some earlier →
        (ofBase base greatest jitter).answer? (calls ++ draws.map .next) .none = some later →
        earlier.nanoseconds ≤ later.nanoseconds

variable {b c : Backoff} {base greatest jitter current draw delay : Duration} {calls : List Call}
  {call : Call} {k n : Nat}

theorem run?_append_singleton (b : Backoff) (calls : List Call) (call : Call) :
    b.run? (calls ++ [call]) = (b.run? calls).bind fun c => c.call? call := by
  rw [run?, run?, List.foldlM_append]
  simp

theorem answer?_eq (h : b.run? calls = some c) :
    b.answer? calls draw = (c.next? draw).map Prod.fst := by
  rw [answer?, h, Option.bind_some]

theorem taken_append_singleton (calls : List Call) (call : Call) :
    taken (calls ++ [call]) = call.count (taken calls) := by
  rw [taken, taken, List.foldl_append]
  rfl

theorem taken_append_map (calls : List Call) (draws : List Duration) :
    taken (calls ++ draws.map .next) = taken calls + draws.length := by
  rw [taken, taken, List.foldl_append]
  generalize calls.foldl Call.count 0 = k
  induction draws generalizing k with
  | nil => rfl
  | cons draw draws ih => exact (ih (k + 1)).trans (Nat.succ_add_eq_add_succ k draws.length)

/-! ### What is due -/

theorem nanoseconds_due (base greatest : Duration) (k : Nat) :
    (due base greatest k).nanoseconds = min (base.nanoseconds * 2 ^ k) greatest.nanoseconds :=
  Duration.nanoseconds_min ..

theorem due_le (base greatest : Duration) (k : Nat) :
    (due base greatest k).nanoseconds ≤ greatest.nanoseconds :=
  Duration.min_le_right ..

theorem due_mono (h : k ≤ n) :
    (due base greatest k).nanoseconds ≤ (due base greatest n).nanoseconds := by
  rw [nanoseconds_due, nanoseconds_due]
  exact min_le_min_right _ (Nat.mul_le_mul_left _ (Nat.pow_le_pow_right Nat.two_pos h))

theorem due_zero (le : base.nanoseconds ≤ greatest.nanoseconds) : due base greatest 0 = base := by
  rw [due, Nat.pow_zero, Nat.mul_one]
  exact if_pos le

/-- What is due is doubled from one delay to the next, and capped again. -/
theorem due_succ (base greatest : Duration) (k : Nat) :
    due base greatest (k + 1) = .min ⟨2 * (due base greatest k).nanoseconds⟩ greatest := by
  have same : (due base greatest (k + 1)).nanoseconds =
      (Duration.min ⟨2 * (due base greatest k).nanoseconds⟩ greatest).nanoseconds := by
    rw [Duration.nanoseconds_min, nanoseconds_due, nanoseconds_due, Nat.pow_succ, ← Nat.mul_assoc]
    dsimp only
    omega
  exact congrArg Duration.mk same

/-- A base that is not zero is due until the greatest delay is reached. -/
theorem due_of_pos (pos : base.nanoseconds ≠ 0) :
    due base greatest greatest.nanoseconds = greatest := by
  have reached : greatest.nanoseconds ≤ base.nanoseconds * 2 ^ greatest.nanoseconds :=
    Nat.lt_two_pow_self.le.trans (Nat.le_mul_of_pos_left _ (Nat.pos_of_ne_zero pos))
  have same : (due base greatest greatest.nanoseconds).nanoseconds = greatest.nanoseconds := by
    rw [nanoseconds_due]
    exact Nat.min_eq_right reached
  exact congrArg Duration.mk same

/-! ### One call -/

theorem next?_doubling (room : current.LeavesRoom draw) :
    (doubling base greatest jitter current).next? draw =
      some (current.add draw,
        doubling base greatest jitter (.min ⟨2 * current.nanoseconds⟩ greatest)) := by
  simp [next?, Duration.double?, Duration.add?, room.doubled, room.sum]

theorem next?_doubling_eq_none (full : Duration.limit ≤ 2 * current.nanoseconds) :
    (doubling base greatest jitter current).next? draw = none := by
  simp [next?, Duration.double?, Nat.not_lt.mpr full]

/-- A call that does not fail returns the current delay with the random part. -/
theorem of_next?_eq_some
    (h : (doubling base greatest jitter current).next? draw = some (delay, c)) :
    delay = current.add draw ∧
      c = doubling base greatest jitter (.min ⟨2 * current.nanoseconds⟩ greatest) := by
  obtain ⟨doubled, double, h⟩ := Option.bind_eq_some_iff.mp h
  obtain ⟨sum, add, h⟩ := Option.bind_eq_some_iff.mp h
  obtain rfl := Option.some.inj (Option.ite_none_right_eq_some.mp double).2
  obtain rfl := Option.some.inj (Option.ite_none_right_eq_some.mp add).2
  exact (Prod.mk.inj (Option.some.inj h)).imp Eq.symm Eq.symm

/-! ### After any calls -/

section After

variable (le : base.nanoseconds ≤ greatest.nanoseconds)
include le

theorem ofBase_eq :
    ofBase base greatest jitter = doubling base greatest jitter (due base greatest 0) := by
  rw [due_zero le, ofBase]

/-- After any calls that do not fail, the current delay is what is due. -/
theorem eq_of_run? (h : (ofBase base greatest jitter).run? calls = some b) :
    b = doubling base greatest jitter (due base greatest (taken calls)) := by
  induction calls using List.reverseRecOn generalizing b with
  | nil => exact (Option.some.inj h).symm.trans (ofBase_eq le)
  | append_singleton calls call ih =>
    rw [run?_append_singleton] at h
    obtain ⟨c, before, h⟩ := Option.bind_eq_some_iff.mp h
    obtain rfl := ih before
    rw [taken_append_singleton]
    cases call with
    | next draw =>
      obtain ⟨⟨delay, d⟩, next, rfl⟩ := Option.map_eq_some_iff.mp h
      rw [(of_next?_eq_some next).2, ← due_succ]
      rfl
    | reset => exact (Option.some.inj h).symm.trans (ofBase_eq le)

/-- If whatever is due leaves room, no call fails. -/
theorem exists_run? (room : ∀ k, (due base greatest k).LeavesRoom jitter)
    (fit : ∀ call ∈ calls, call.FitsIn jitter) :
    ∃ b, (ofBase base greatest jitter).run? calls = some b := by
  induction calls using List.reverseRecOn with
  | nil => exact ⟨_, rfl⟩
  | append_singleton calls call ih =>
    obtain ⟨b, before⟩ := ih fun call member => fit call (List.mem_append_left _ member)
    rw [run?_append_singleton, before, Option.bind_some, eq_of_run? le before]
    cases call with
    | next draw =>
      have fits : draw.nanoseconds ≤ jitter.nanoseconds := fit _ List.mem_concat_self
      rw [call?, next?_doubling ((room _).mono le_rfl fits)]
      exact ⟨_, rfl⟩
    | reset => exact ⟨_, rfl⟩

/-- A call returns what is due with the random part, if it returns. -/
theorem eq_of_answer? (h : (ofBase base greatest jitter).answer? calls draw = some delay) :
    delay = (due base greatest (taken calls)).add draw := by
  obtain ⟨b, before, h⟩ := Option.bind_eq_some_iff.mp h
  obtain ⟨⟨returned, c⟩, next, rfl⟩ := Option.map_eq_some_iff.mp h
  rw [eq_of_run? le before] at next
  exact (of_next?_eq_some next).1

theorem answer?_eq_some (room : ∀ k, (due base greatest k).LeavesRoom jitter)
    (fit : ∀ call ∈ calls, call.FitsIn jitter) (fits : draw.nanoseconds ≤ jitter.nanoseconds) :
    (ofBase base greatest jitter).answer? calls draw =
      some ((due base greatest (taken calls)).add draw) := by
  obtain ⟨b, before⟩ := exists_run? le room fit
  rw [answer?_eq before, eq_of_run? le before, next?_doubling ((room _).mono le_rfl fits),
    Option.map_some]

end After

/-! ### Which backoffs are exponential -/

/-- Whatever is due leaves room, unless the greatest delay cannot be doubled and is reached. -/
theorem leavesRoom_due (storable : greatest.nanoseconds + jitter.nanoseconds < Duration.limit)
    (h : base.nanoseconds = 0 ∨ 2 * greatest.nanoseconds < Duration.limit) (k : Nat) :
    (due base greatest k).LeavesRoom jitter := by
  refine ⟨?_, (Nat.add_le_add_right (due_le ..) _).trans_lt storable⟩
  rcases h with zero | room
  · rw [nanoseconds_due, zero, Nat.zero_mul, Nat.zero_min]
    decide
  · exact (Nat.mul_le_mul_left 2 (due_le ..)).trans_lt room

theorem IsExponential.of_leavesRoom (le : base.nanoseconds ≤ greatest.nanoseconds)
    (room : ∀ k, (due base greatest k).LeavesRoom jitter) : IsExponential base greatest jitter where
  returns calls fit draw fits :=
    ⟨_, answer?_eq_some le room fit fits, Nat.le_add_right .., Nat.add_le_add_left fits _⟩
  capped calls fit draw fits delay returned := by
    rw [eq_of_answer? le returned]
    exact Nat.add_le_add (due_le ..) fits
  grows calls fit draws fits earlier later first second := by
    rw [eq_of_answer? le first, eq_of_answer? le second]
    exact Nat.add_le_add_right (due_mono (taken_append_map .. ▸ Nat.le_add_right ..)) _

/-- The first delay shows the base, and with the greatest random part it is longer than it may be if the
base is longer than the greatest delay. -/
theorem IsExponential.base_le (h : IsExponential base greatest jitter) :
    base.nanoseconds ≤ greatest.nanoseconds := by
  obtain ⟨delay, returned, -, -⟩ := h.returns [] (List.forall_mem_nil _) jitter le_rfl
  have within := h.capped [] (List.forall_mem_nil _) jitter le_rfl delay returned
  obtain ⟨⟨_, c⟩, next, rfl⟩ := Option.map_eq_some_iff.mp returned
  rw [(of_next?_eq_some next).1] at within
  exact Nat.le_of_add_le_add_right within

/-- Once the greatest delay is reached it has to be doubled. -/
theorem IsExponential.room (h : IsExponential base greatest jitter) (pos : base.nanoseconds ≠ 0) :
    2 * greatest.nanoseconds < Duration.limit := by
  let calls : List Call := (List.replicate greatest.nanoseconds .none).map .next
  have fit : ∀ call ∈ calls, call.FitsIn jitter := by
    refine List.forall_mem_map.mpr fun draw member => ?_
    rw [List.eq_of_mem_replicate member]
    exact Nat.zero_le _
  obtain ⟨delay, returned, -⟩ := h.returns calls fit .none (Nat.zero_le _)
  obtain ⟨b, before, next⟩ := Option.bind_eq_some_iff.mp returned
  have all : taken calls = greatest.nanoseconds := by
    rw [← List.nil_append calls, taken_append_map, List.length_replicate]
    exact Nat.zero_add _
  rw [eq_of_run? h.base_le before, all, due_of_pos pos] at next
  by_contra full
  rw [next?_doubling_eq_none (Nat.le_of_not_lt full)] at next
  cases next

/-- If the greatest delay and the greatest random part can be stored together, a backoff is exponential
exactly if its base is at most the greatest delay, and if the base is zero or the greatest delay is below
half of what can be stored. -/
theorem isExponential_iff (storable : greatest.nanoseconds + jitter.nanoseconds < Duration.limit) :
    IsExponential base greatest jitter ↔ base.nanoseconds ≤ greatest.nanoseconds ∧
      (base.nanoseconds = 0 ∨ 2 * greatest.nanoseconds < Duration.limit) := by
  constructor
  · intro h
    refine ⟨h.base_le, ?_⟩
    by_cases zero : base.nanoseconds = 0
    · exact .inl zero
    · exact .inr (h.room zero)
  · rintro ⟨le, room⟩
    exact .of_leavesRoom le (leavesRoom_due storable room)

theorem isExponential_standard :
    standard = ofBase (.ofSeconds 1) (.ofSeconds 32) (.ofMilliseconds 500) ∧
      IsExponential (.ofSeconds 1) (.ofSeconds 32) (.ofMilliseconds 500) :=
  ⟨rfl, (isExponential_iff (by decide)).mpr ⟨by decide, .inr (by decide)⟩⟩

/-- A base of two seconds is returned although the greatest delay is one second. And a delay of 2 ^ 63
seconds that is due cannot be returned, although it is also the greatest one and can be stored. -/
theorem not_isExponential :
    (1 * Duration.perSecond < Duration.limit ∧
      ¬ IsExponential (.ofSeconds 2) (.ofSeconds 1) .none) ∧
    (2 ^ 63 * Duration.perSecond < Duration.limit ∧
      ¬ IsExponential (.ofSeconds (2 ^ 63)) (.ofSeconds (2 ^ 63)) .none) :=
  ⟨⟨by decide, fun h => absurd h.base_le (by decide)⟩,
    by decide, fun h => absurd (h.room (by decide)) (by decide)⟩

end Backoff

end Targeting.Platform
