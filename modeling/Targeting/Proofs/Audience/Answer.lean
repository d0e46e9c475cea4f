import Targeting.Audience.Evaluator
import Targeting.Proofs.Tree.Evaluation

/-!
# Answers without notices

What has been said before has no influence on an answer. So the answer for a condition is a function
of the user, the answer for an audience is the value of its tree of conditions under this function,
and the answer for a targeting is the value of its tree of ids under the answers for audiences.

## Main definitions

* `Evaluator.answer`, `Evaluator.audienceAnswer` — the answers for a condition and for an audience

## Main results

* `Evaluator.askCondition_fst`, `Evaluator.askAudience_fst` — the answers that are given are these
* `Evaluator.evaluateTargeting_fst`, `Evaluator.evaluate_fst` — the answers for a targeting
-/

namespace Targeting

/-- What is found under a key does not depend on entries under other keys. -/
theorem lookup_filter {κ ν : Type} [BEq κ] [LawfulBEq κ] {p : κ × ν → Bool} {key : κ}
    (h : ∀ value, p (key, value) = true) (entries : List (κ × ν)) :
    (entries.filter p).lookup key = entries.lookup key := by
  induction entries with
  | nil => rfl
  | cons entry entries ih =>
    obtain ⟨k, value⟩ := entry
    by_cases same : key = k
    · subst same
      rw [List.filter_cons_of_pos (h value), List.lookup_cons_self, List.lookup_cons_self]
    · have other : (key == k) = false := beq_eq_false_iff_ne.mpr same
      rw [List.filter_cons]
      split
      · rw [List.lookup_cons, List.lookup_cons, other, ih]
      · rw [List.lookup_cons, other, ih]

namespace Evaluator

open Audience (Notice)

variable (e : Evaluator) (catalogue : Catalogue) (user : User) (log : List Notice)

/-- The answer for a condition: a judgement that fails leaves it open. -/
def answer (c : Condition) : Truth :=
  match e.judge user c with
  | .ok t => t
  | .error _ => .unknown

/-- The answer for an audience given by its id: one that is missing leaves it open. -/
def audienceAnswer (id : String) : Truth :=
  match catalogue id with
  | some audience => audience.conditions.value (e.answer user)
  | none => .unknown

theorem askCondition_fst (c : Condition) : (e.askCondition user c log).1 = e.answer user c := by
  unfold askCondition answer
  cases e.judge user c <;> rfl

theorem evaluateConditions_fst (t : Tree Condition) :
    (t.evaluate (e.askCondition user) log).1 = t.value (e.answer user) :=
  congrArg Prod.fst
    (Tree.evaluate_of_answer (fun c log => Prod.ext (e.askCondition_fst user log c) rfl) t log)

theorem askAudience_fst (id : String) :
    (e.askAudience catalogue user id log).1 = e.audienceAnswer catalogue user id := by
  cases found : catalogue id with
  | none => simp only [askAudience, askAudienceBy, audienceAnswer, found]; rfl
  | some audience =>
    simp only [askAudience, askAudienceBy, audienceAnswer, found]
    exact e.evaluateConditions_fst user _ audience.conditions

theorem evaluateTargeting_fst (targeting : Tree String) :
    (targeting.evaluate (e.askAudience catalogue user) log).1 =
      targeting.value (e.audienceAnswer catalogue user) :=
  congrArg Prod.fst (Tree.evaluate_of_answer
    (fun id log => Prod.ext (e.askAudience_fst catalogue user log id) rfl) targeting log)

theorem evaluate_fst (targeting : Option (Tree String)) :
    (e.evaluate targeting catalogue user log).1 =
      targeting.all fun t => (t.value (e.audienceAnswer catalogue user)).holds := by
  cases targeting with
  | none => rfl
  | some targeting =>
    exact congrArg Truth.holds (e.evaluateTargeting_fst catalogue user log targeting)

end Evaluator

end Targeting
