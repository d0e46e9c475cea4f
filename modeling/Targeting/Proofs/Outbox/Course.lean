import Mathlib.Data.ENat.Lattice
import Targeting.Proofs.Backoff
import Targeting.Proofs.Outbox.LastWord

/-!
# The course of a delivery

What a delivery does is settled by the answers to its attempts and by the random parts of its delays.
It makes attempts until one of them has an answer that concludes the matter, or until it was tried as
often as allowed, and it waits after every attempt that another one follows.

Taking a delay may fail, and then the delivery crashes where it should wait. Delays of moderate size
never fail so. And since the random part may be anything, delays of any other making are among those
that have no base.

## Main definitions

* `firstTime` — the number of the first turn at which something is so
* `Backoff.delay?`, `Backoff.firstRefusal` — the delays of a batch, one after another, and the first one
  that cannot be taken
* `Delivery.Course` — what comes of the attempts on a batch
* `Delivery.Course.Goes`, `Delivery.Course.total` — whether there is a next attempt, and how many there
  are
* `Delivery.Course.Stands` — where a delivery stands after some attempts

## Main results

* `Backoff.IsModerate.firstRefusal_eq_top` — delays of moderate size can always be taken
* `Delivery.Course.goes_iff` — there is a next attempt until the number of all attempts is reached
* `Delivery.Course.Stands.arrives` — what an attempt leads to
* `Delivery.Course.Stands.account` — the number of attempts, the pauses and the last word
-/

namespace Targeting

/-! ### The first turn -/

/-- The number of the first turn at which something is so, if turns are counted from one; infinite if it
is never so. -/
noncomputable def firstTime (p : Nat → Prop) : ℕ∞ := ⨅ i, ⨅ _ : p i, ((i + 1 : Nat) : ℕ∞)

theorem lt_firstTime_iff {p : Nat → Prop} {n : Nat} : (n : ℕ∞) < firstTime p ↔ ∀ i < n, ¬ p i := by
  have next : (n : ℕ∞) < firstTime p ↔ ((n + 1 : Nat) : ℕ∞) ≤ firstTime p := by
    rw [Nat.cast_add_one, ENat.add_one_le_iff (ENat.natCast_ne_top n)]
  rw [next, firstTime, le_iInf₂_iff]
  refine forall_congr' fun i => ?_
  rw [Nat.cast_le, Nat.add_le_add_iff_right, ← not_imp_not, Nat.not_le]

theorem firstTime_eq {p : Nat → Prop} {n : Nat} (before : ∀ i < n, ¬ p i) (here : p n) :
    firstTime p = (n + 1 : Nat) := by
  refine le_antisymm (iInf₂_le n here) ?_
  rw [Nat.cast_add_one, ENat.add_one_le_iff (ENat.natCast_ne_top n)]
  exact lt_firstTime_iff.mpr before

theorem firstTime_eq_top {p : Nat → Prop} (never : ∀ i, ¬ p i) : firstTime p = ⊤ :=
  iInf₂_eq_top.mpr fun i h => absurd h (never i)

namespace Platform

/-! ### Delays -/

namespace Backoff

variable {draws : Nat → Duration} {b c : Backoff} {n : Nat}

/-- The state of the delays after some of them were taken, with the random parts that are drawn; none if
one of them could not be taken. -/
def after? (draws : Nat → Duration) (b : Backoff) : Nat → Option Backoff
  | 0 => some b
  | n + 1 => (after? draws b n).bind fun c => (c.next? (draws n)).map Prod.snd

/-- The delays of a batch, one after another; none from where on one could not be taken. -/
def delay? (draws : Nat → Duration) (b : Backoff) (n : Nat) : Option Duration :=
  (b.after? draws n).bind fun c => (c.next? (draws n)).map Prod.fst

/-- The number of the first delay that cannot be taken. -/
noncomputable def firstRefusal (draws : Nat → Duration) (b : Backoff) : ℕ∞ :=
  firstTime fun i => b.delay? draws i = none

theorem of_next? (here : b.after? draws n = some c) :
    b.delay? draws n = (c.next? (draws n)).map Prod.fst ∧
      b.after? draws (n + 1) = (c.next? (draws n)).map Prod.snd := by
  rw [delay?, after?, here]
  exact ⟨rfl, rfl⟩

/-- Delays without a base are what is drawn: so any delays at all are among these. -/
theorem delay?_of_none (jitter : Duration) (storable : ∀ n, (draws n).nanoseconds < Duration.limit)
    (n : Nat) : (ofBase .none .none jitter).delay? draws n = some (draws n) := by
  have drawn (n : Nat) : Duration.none.add (draws n) = draws n := by
    simp [Duration.add, Duration.none]
  have next (n : Nat) : (ofBase .none .none jitter).next? (draws n) =
      some (draws n, ofBase .none .none jitter) := by
    have room : 2 * Duration.none.nanoseconds < Duration.limit := by decide
    have sum : Duration.none.nanoseconds + (draws n).nanoseconds < Duration.limit := by
      simpa [Duration.none] using storable n
    rw [ofBase, next?_doubling ⟨room, sum⟩, drawn]
    rfl
  have still (n : Nat) :
      (ofBase .none .none jitter).after? draws n = some (ofBase .none .none jitter) := by
    induction n with
    | zero => rfl
    | succ n ih => rw [(of_next? ih).2, next, Option.map_some]
  rw [(of_next? (still n)).1, next, Option.map_some]

/-- The current delay and the greatest one can be doubled, and any random part can be added to them. -/
def IsModerate : Backoff → Prop
  | doubling _ greatest jitter current => current.LeavesRoom jitter ∧ greatest.LeavesRoom jitter
  | constant _ => True

theorem IsModerate.next? (h : b.IsModerate) {draw : Duration}
    (fits : draw.nanoseconds ≤ b.jitter.nanoseconds) :
    ∃ delay c, b.next? draw = some (delay, c) ∧ c.IsModerate ∧ c.jitter = b.jitter := by
  cases b with
  | constant delay => exact ⟨delay, .constant delay, rfl, trivial, rfl⟩
  | doubling base greatest jitter current =>
    obtain ⟨room, great⟩ := h
    refine ⟨_, _, next?_doubling (room.mono le_rfl fits), ⟨?_, great⟩, rfl⟩
    -- The next delay is at most the greatest one.
    exact great.mono (Duration.min_le_right ..) le_rfl

theorem IsModerate.firstRefusal_eq_top (h : b.IsModerate) (draws : Nat → Duration)
    (fit : ∀ n, (draws n).nanoseconds ≤ b.jitter.nanoseconds) : b.firstRefusal draws = ⊤ := by
  have moderate (n : Nat) : ∃ c, b.after? draws n = some c ∧ c.IsModerate ∧ c.jitter = b.jitter := by
    induction n with
    | zero => exact ⟨b, rfl, h, rfl⟩
    | succ n ih =>
      obtain ⟨c, here, moderate, same⟩ := ih
      obtain ⟨delay, d, next, after, still⟩ := moderate.next? (same ▸ fit n)
      exact ⟨d, by rw [(of_next? here).2, next]; rfl, after, still.trans same⟩
  refine firstTime_eq_top fun n none => ?_
  obtain ⟨c, here, moderate, same⟩ := moderate n
  obtain ⟨delay, d, next, -⟩ := moderate.next? (same ▸ fit n)
  rw [(of_next? here).1, next] at none
  exact Option.some_ne_none delay none

example : standard.IsModerate := ⟨⟨by decide, by decide⟩, by decide, by decide⟩

end Backoff

/-! ### The course of a delivery -/

namespace Delivery

open Outbox (Notice)

/-- Whether an answer concludes the matter: the batch was taken, or no request can be made of it. -/
def concludes : Except Failure Nat → Bool
  | .ok code => 200 ≤ code && code < 300
  | .error (.invalidUrl _) => true
  | .error (.tooManyEvents _) => true
  | .error _ => false

/-- The outcome of an attempt that has an answer. -/
def Outcome.ofAnswer : Except Failure Nat → Outcome
  | .ok code => .status code
  | .error failure => .failed failure

/-- What comes of the attempts on a batch: the answer to each attempt, and the random part of the delay
after it. -/
structure Course where
  answers : Nat → Except Failure Nat
  draws : Nat → Duration

section Receive

variable {d : Delivery} {draw : Duration} {outcome : Outcome}

theorem receive_of_isFinal (final : outcome.isFinal = true) :
    d.receive draw outcome = (d.notices outcome, .ended (endingOf outcome)) :=
  if_pos final

theorem receive_of_not_isFinal (goesOn : ¬ outcome.isFinal = true) :
    d.receive draw outcome = (d.notices outcome ++ (d.retry draw).1, (d.retry draw).2) :=
  if_neg goesOn

theorem retry_of_le (spent : d.allowed ≤ d.attempt) :
    d.retry draw = ([.exhausted d.batch.length d.allowed], .ended .exhausted) :=
  if_pos spent

theorem retry_of_none (left : ¬ d.allowed ≤ d.attempt) (none : d.backoff.next? draw = none) :
    d.retry draw = ([], .ended .crashed) := by
  rw [retry, if_neg left, none]

theorem retry_of_some (left : ¬ d.allowed ≤ d.attempt) {delay : Duration} {backoff : Backoff}
    (taken : d.backoff.next? draw = some (delay, backoff)) :
    d.retry draw = ([], .wait delay { d with backoff, attempt := d.attempt + 1 }) := by
  rw [retry, if_neg left, taken]

end Receive

namespace Course

variable (course : Course) {rule : RetryRule} {config : Config} {events : List Event} {n : Nat}

/-- The number of the first attempt whose answer concludes the matter. -/
noncomputable def conclusion : ℕ∞ := firstTime fun i => concludes (course.answers i) = true

/-- The number of attempts that are asked for. -/
noncomputable def asked (rule : RetryRule) : ℕ∞ := min course.conclusion rule.attempts

/-- The number of attempts that are made: no more than are asked for, and none after a delay that cannot
be taken. -/
noncomputable def total (rule : RetryRule) : ℕ∞ :=
  min (course.asked rule) (rule.backoff.firstRefusal course.draws)

/-- The last word about a batch of some events after some attempts. -/
def lastWord (count made : Nat) : Notice :=
  let answer := course.answers (made - 1)
  if concludes answer then
    match answer with
    | .ok _ => .sent count made
    | .error failure => .unsendable failure count
  else .exhausted count made

/-- After some attempts there is another one. -/
structure Goes (rule : RetryRule) (n : Nat) : Prop where
  unsettled : ∀ i < n, concludes (course.answers i) = false
  allowed : n < rule.attempts
  delayed : ∀ i < n, rule.backoff.delay? course.draws i ≠ none

/-- Nobody asks for another attempt after this one. -/
def IsLast (rule : RetryRule) (n : Nat) : Prop :=
  concludes (course.answers n) = true ∨ rule.attempts ≤ n + 1

variable {course}

theorem goes_iff : course.Goes rule n ↔ (n : ℕ∞) < course.total rule := by
  -- Each of the three bounds on the number of attempts is one of the three conditions.
  rw [total, asked, lt_min_iff, lt_min_iff, conclusion, Backoff.firstRefusal, lt_firstTime_iff,
    lt_firstTime_iff, Nat.cast_lt]
  simp only [Bool.not_eq_true]
  constructor
  · intro h
    exact ⟨⟨h.unsettled, h.allowed⟩, h.delayed⟩
  · rintro ⟨⟨unsettled, allowed⟩, delayed⟩
    exact ⟨unsettled, allowed, delayed⟩

theorem goes_succ_iff (goes : course.Goes rule n) : course.Goes rule (n + 1) ↔
    ¬ course.IsLast rule n ∧ rule.backoff.delay? course.draws n ≠ none := by
  rw [IsLast, not_or, Nat.not_le, Bool.not_eq_true]
  constructor
  · intro h
    exact ⟨⟨h.unsettled n n.lt_succ_self, h.allowed⟩, h.delayed n n.lt_succ_self⟩
  · rintro ⟨⟨unsettled, allowed⟩, delayed⟩
    exact ⟨Nat.forall_lt_succ_right.mpr ⟨goes.unsettled, unsettled⟩, allowed,
      Nat.forall_lt_succ_right.mpr ⟨goes.delayed, delayed⟩⟩

theorem IsLast.not_goes_succ (last : course.IsLast rule n) (goes : course.Goes rule n) :
    ¬ course.Goes rule (n + 1) := by
  intro more
  exact ((goes_succ_iff goes).mp more).1 last

theorem goes_zero : course.Goes rule 0 where
  unsettled _ h := absurd h (Nat.not_lt_zero _)
  allowed := Nat.lt_min.mpr ⟨Nat.succ_pos _, by decide⟩
  delayed _ h := absurd h (Nat.not_lt_zero _)

theorem total_eq (goes : course.Goes rule n) (last : ¬ course.Goes rule (n + 1)) :
    course.total rule = (n + 1 : Nat) := by
  refine le_antisymm (not_lt.mp (mt goes_iff.mpr last)) ?_
  rw [Nat.cast_add_one, ENat.add_one_le_iff (ENat.natCast_ne_top n)]
  exact goes_iff.mp goes

/-- Where all that was asked for is done, the last attempt is one after which nobody asks for more. -/
theorem total_eq_asked_iff (goes : course.Goes rule n) (last : ¬ course.Goes rule (n + 1)) :
    course.total rule = course.asked rule ↔ course.IsLast rule n := by
  have le : course.total rule ≤ course.asked rule := min_le_left ..
  -- More is asked for than was done exactly if somebody asks for more after the last attempt.
  have more : ((n + 1 : Nat) : ℕ∞) < course.asked rule ↔ ¬ course.IsLast rule n := by
    rw [asked, lt_min_iff, conclusion, lt_firstTime_iff, Nat.cast_lt, IsLast, not_or, Nat.not_le]
    refine and_congr_left' ⟨fun h => h n n.lt_succ_self, fun h => ?_⟩
    refine Nat.forall_lt_succ_right.mpr ⟨fun i hi => ?_, h⟩
    rw [goes.unsettled i hi]
    exact Bool.false_ne_true
  rw [← not_iff_not, ← more, ← total_eq goes last]
  exact ⟨lt_of_le_of_ne le, ne_of_lt⟩

/-- All that was asked for is done exactly if every delay before an attempt that is asked for can be
taken. -/
theorem total_eq_asked_iff_delayed : course.total rule = course.asked rule ↔
    ∀ i : Nat, ((i + 1 : Nat) : ℕ∞) < course.asked rule → rule.backoff.delay? course.draws i ≠ none := by
  rw [total, min_eq_left_iff, Backoff.firstRefusal, firstTime, le_iInf₂_iff]
  refine forall_congr' fun i => ?_
  rw [← not_imp_not, not_le]

/-- The delivery after some attempts. -/
def delivery? (course : Course) (rule : RetryRule) (config : Config) (events : List Event)
    (n : Nat) : Option Delivery :=
  (rule.backoff.after? course.draws n).map fun backoff =>
    { ofRule rule config events with backoff, attempt := n + 1 }

/-- The outcome of an attempt. -/
def outcome (course : Course) (n : Nat) : Outcome := .ofAnswer (course.answers n)

theorem isFinal_outcome (course : Course) (n : Nat) :
    (course.outcome n).isFinal = concludes (course.answers n) := by
  rw [outcome]
  cases course.answers n with
  | ok code => rfl
  | error failure => cases failure <;> rfl

variable {d : Delivery}

theorem of_delivery? (here : course.delivery? rule config events n = some d) :
    d.config = config ∧ d.batch = events ∧ d.allowed = rule.attempts ∧ d.attempt = n + 1 ∧
      rule.backoff.after? course.draws n = some d.backoff := by
  obtain ⟨backoff, after, rfl⟩ := Option.map_eq_some_iff.mp here
  exact ⟨rfl, rfl, rfl, rfl, after⟩

/-! ### What an attempt leads to -/

/-- Where a delivery stands after some attempts, with its pauses and its last words so far. -/
inductive Stands (course : Course) (rule : RetryRule) (config : Config) (events : List Event) :
    Nat → Outbox.Progress → List Duration → List Notice → Prop
  /-- There is another attempt, and there was a pause after each one. -/
  | underway {n : Nat} {d : Delivery} {pauses : List Duration} (goes : course.Goes rule n)
      (here : course.delivery? rule config events n = some d)
      (paused : pauses.map some = (List.range n).map (rule.backoff.delay? course.draws)) :
      Stands course rule config events n (.active d) pauses []
  /-- The last attempt was made, and there was a pause after each one before it. -/
  | closed {n : Nat} {ending : Ending} {pauses : List Duration} {words : List Notice}
      (goes : course.Goes rule n) (last : ¬ course.Goes rule (n + 1))
      (paused : pauses.map some = (List.range n).map (rule.backoff.delay? course.draws))
      (done : course.IsLast rule n →
        ending ≠ .crashed ∧ words = [course.lastWord events.length (n + 1)])
      (crash : ¬ course.IsLast rule n → ending = .crashed) :
      Stands course rule config events (n + 1) (.ended ending) pauses words

/-- Where a delivery stands when another attempt has led on, after the pauses before it. -/
def Arrives (course : Course) (rule : RetryRule) (config : Config) (events : List Event) (n : Nat)
    (pauses : List Duration) : List Notice × Sequel → Prop
  | (said, .wait delay next) =>
    Stands course rule config events (n + 1) (.active next) (pauses ++ [delay])
      (said.filter Notice.isFinal)
  | (said, .ended ending) =>
    Stands course rule config events (n + 1) (.ended ending) pauses (said.filter Notice.isFinal)

namespace Stands

variable {pauses : List Duration} {words : List Notice} {delay : Duration} {ending : Ending}

theorem initial : Stands course rule config events 0 (.active (.ofRule rule config events)) [] [] :=
  .underway goes_zero rfl rfl

/-- After the last attempt that anybody asks for, the delivery has ended and said so. -/
theorem of_isLast (goes : course.Goes rule n)
    (paused : pauses.map some = (List.range n).map (rule.backoff.delay? course.draws))
    (last : course.IsLast rule n) (sound : ending ≠ .crashed)
    (told : words = [course.lastWord events.length (n + 1)]) :
    Stands course rule config events (n + 1) (.ended ending) pauses words := by
  refine .closed goes (last.not_goes_succ goes) paused (fun _ => ⟨sound, told⟩) fun more => ?_
  exact absurd last more

/-- An attempt whose answer concludes the matter ends the delivery. -/
theorem conclude (goes : course.Goes rule n) (here : course.delivery? rule config events n = some d)
    (paused : pauses.map some = (List.range n).map (rule.backoff.delay? course.draws))
    (final : concludes (course.answers n) = true) :
    Stands course rule config events (n + 1) (.ended (endingOf (course.outcome n))) pauses
      ((d.notices (course.outcome n)).filter Notice.isFinal) := by
  obtain ⟨-, batch, -, attempt, -⟩ := of_delivery? here
  -- The attempt with the number `n + 1` has the answer at `n`.
  rw [filter_final_of_isFinal ((isFinal_outcome course n).trans final), batch, attempt]
  apply of_isLast goes paused (.inl final)
  · rw [outcome]
    cases course.answers n <;> exact Ending.noConfusion
  · rw [lastWord, Nat.add_sub_cancel, outcome]
    simp only [final, if_true]
    cases course.answers n <;> rfl

/-- The last attempt that is allowed ends the delivery. -/
theorem exhaust (goes : course.Goes rule n) (here : course.delivery? rule config events n = some d)
    (paused : pauses.map some = (List.range n).map (rule.backoff.delay? course.draws))
    (goesOn : concludes (course.answers n) = false) (spent : d.allowed ≤ d.attempt) :
    Stands course rule config events (n + 1) (.ended .exhausted) pauses
      [.exhausted d.batch.length d.allowed] := by
  obtain ⟨-, batch, allowed, attempt, -⟩ := of_delivery? here
  rw [allowed, attempt] at spent
  have all : rule.attempts = n + 1 := Nat.le_antisymm spent goes.allowed
  apply of_isLast goes paused (.inr spent) Ending.noConfusion
  rw [lastWord, Nat.add_sub_cancel, goesOn, batch, allowed, all]
  rfl

/-- Where no delay can be taken the delivery crashes. -/
theorem crash_of_none (goes : course.Goes rule n)
    (paused : pauses.map some = (List.range n).map (rule.backoff.delay? course.draws))
    (more : ¬ course.IsLast rule n) (none : rule.backoff.delay? course.draws n = none) :
    Stands course rule config events (n + 1) (.ended .crashed) pauses [] := by
  have last : ¬ course.Goes rule (n + 1) := by
    intro next
    exact ((goes_succ_iff goes).mp next).2 none
  exact .closed goes last paused (fun final => absurd final more) fun _ => rfl

/-- Where a delay can be taken the delivery waits and goes on. -/
theorem pause (goes : course.Goes rule n) (here : course.delivery? rule config events n = some d)
    (paused : pauses.map some = (List.range n).map (rule.backoff.delay? course.draws))
    (more : ¬ course.IsLast rule n) {backoff : Backoff}
    (taken : d.backoff.next? (course.draws n) = some (delay, backoff)) :
    Stands course rule config events (n + 1)
      (.active { d with backoff, attempt := d.attempt + 1 }) (pauses ++ [delay]) [] := by
  obtain ⟨config, batch, allowed, attempt, after⟩ := of_delivery? here
  -- What the delivery has left of its delays begins with the next one of all delays.
  obtain ⟨delayed, left⟩ := Backoff.of_next? after
  rw [taken] at delayed left
  have goesOn : course.Goes rule (n + 1) := by
    refine (goes_succ_iff goes).mpr ⟨more, ?_⟩
    rw [delayed]
    exact Option.some_ne_none delay
  refine .underway goesOn ?_ ?_
  · rw [delivery?, left, ← config, ← batch, attempt, ofRule, ← allowed]
    rfl
  · rw [List.map_append, paused, List.range_succ, List.map_append, List.map_singleton,
      List.map_singleton, delayed]
    rfl

/-- A delivery under way may be tried again, it has the configuration and the batch that it began with,
and nothing final was said. -/
theorem of_active (h : Stands course rule config events n (.active d) pauses words) :
    n < rule.attempts ∧ d.config = config ∧ d.batch = events ∧ words = [] := by
  obtain ⟨goes, here, -⟩ := h
  obtain ⟨same, carried, -⟩ := of_delivery? here
  exact ⟨goes.allowed, same, carried, rfl⟩

/-- Every attempt leads on, to a pause or to the end. -/
theorem arrives (h : Stands course rule config events n (.active d) pauses words) :
    Arrives course rule config events n pauses
      (d.receive (course.draws n) (course.outcome n)) := by
  obtain ⟨goes, here, paused⟩ := h
  obtain ⟨-, -, allowed, attempt, after⟩ := of_delivery? here
  cases final : concludes (course.answers n) with
  | true =>
    rw [receive_of_isFinal ((isFinal_outcome course n).trans final)]
    exact conclude goes here paused final
  | false =>
    have goesOn : ¬ (course.outcome n).isFinal = true := by simp [isFinal_outcome, final]
    rw [receive_of_not_isFinal goesOn]
    by_cases spent : d.allowed ≤ d.attempt
    · rw [retry_of_le spent, Arrives, List.filter_append, filter_final_of_not_isFinal goesOn]
      exact exhaust goes here paused final spent
    · have more : ¬ course.IsLast rule n := by
        rw [allowed, attempt] at spent
        simp [IsLast, final, spent]
      cases taken : d.backoff.next? (course.draws n) with
      | none =>
        rw [retry_of_none spent taken, Arrives, List.append_nil, filter_final_of_not_isFinal goesOn]
        refine crash_of_none goes paused more ?_
        rw [(Backoff.of_next? after).1, taken]
        rfl
      | some next =>
        rw [retry_of_some spent taken, Arrives, List.append_nil, filter_final_of_not_isFinal goesOn]
        exact pause goes here paused more taken

/-- A delivery goes on until the number of all attempts is reached, and there was a pause after each
attempt that another one follows. -/
theorem account {progress : Outbox.Progress}
    (h : Stands course rule config events n progress pauses words) :
    ((n : ℕ∞) ≤ course.total rule ∧ (progress.isEnded = true ↔ (n : ℕ∞) = course.total rule)) ∧
      pauses.map some = (List.range (if progress.isEnded then n - 1 else n)).map
        (rule.backoff.delay? course.draws) ∧
      (progress.isEnded = false → words = []) ∧
      (progress.isEnded = true →
        (course.total rule = course.asked rule → words = [course.lastWord events.length n]) ∧
        (course.total rule < course.asked rule → progress.isCrashed = true)) := by
  cases h with
  | underway goes here paused =>
    have more := goes_iff.mp goes
    exact ⟨⟨more.le, fun ended => absurd ended Bool.false_ne_true, fun all => absurd all more.ne⟩,
      paused, fun _ => rfl, fun ended => absurd ended Bool.false_ne_true⟩
  | closed goes last paused done crash =>
    -- The attempt with the number `n` was the last one, and `n + 1` counts it.
    have all := total_eq goes last
    have final := total_eq_asked_iff goes last
    refine ⟨⟨all.ge, fun _ => all.symm, fun _ => rfl⟩, paused,
      fun active => absurd active.symm Bool.false_ne_true, fun _ => ⟨?_, ?_⟩⟩
    · exact fun enough => (done (final.mp enough)).2
    · intro fewer
      rw [crash fun enough => fewer.ne (final.mpr enough)]
      rfl

/-- Somebody who looks at a delivery that has ended adds nothing to its last word, unless it has
crashed. -/
theorem look (h : Stands course rule config events n (.ended ending) pauses words)
    {more : List Notice} (silent : ending ≠ .crashed → more = []) :
    Stands course rule config events n (.ended ending) pauses (words ++ more) := by
  cases h with
  | closed goes last paused done crash =>
    refine .closed goes last paused (fun final => ?_) crash
    obtain ⟨sound, told⟩ := done final
    rw [told, silent sound]
    exact ⟨sound, List.append_nil _⟩

end Stands

end Course

end Delivery

end Platform

end Targeting
