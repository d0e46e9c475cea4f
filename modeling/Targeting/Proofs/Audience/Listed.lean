import Targeting.Proofs.Audience.Answer
import Targeting.Proofs.Tree.RoundTrip

/-!
# Lists of audience ids

A rule that is targeted at several audiences without saying how they are combined is targeted at those
who belong to any of them. There are two ways to such a targeting: the tree over the ids, and the tree
that the list of the ids is read as. They are the same tree, with one exception. Without any id the list
stands for no targeting at all, and everyone is included, whereas no one belongs to any of no audiences.

A list that begins with the word for an operator is read as this operator and is no list of ids.

## Main results

* `Tree.ofTargeting?_texts` — what a list of ids is read as
* `Evaluator.evaluate_anyOf` — who belongs to any of some audiences
* `Evaluator.listed_iff` — the two ways give the same answer if and only if there is an id
* `Evaluator.not_listed_of_nobody` — without any id one includes everyone, and the other no one
-/

namespace Targeting

namespace Tree

variable {ids : List String}

/-- Whether the first of some ids is no word for an operator. -/
def BeginsPlain (ids : List String) : Prop :=
  ∀ id ∈ ids.head?, id ≠ "and" ∧ id ≠ "or" ∧ id ≠ "not"

instance (ids : List String) : Decidable (BeginsPlain ids) :=
  inferInstanceAs (Decidable (∀ id ∈ ids.head?, id ≠ "and" ∧ id ≠ "or" ∧ id ≠ "not"))

theorem operator?_eq_none {id : String} (h : id ≠ "and" ∧ id ≠ "or" ∧ id ≠ "not") :
    operator? (.str id) = none := by
  obtain ⟨and, or, not⟩ := h
  simp [operator?, Operator.ofText?]

/-- Each id is a leaf, also one that is a word for an operator. -/
theorem ofOperands?_ids (ids : List String) :
    ofOperands? Json.text? (ids.map .str) = some (ids.map leaf) := by
  rw [ofOperands?_eq_some_iff, List.forall₂_map_left_iff, List.forall₂_map_right_iff,
    List.forall₂_same]
  intro id _
  rfl

/-- A list of ids is read as any of them, and an empty one as no targeting. -/
theorem ofTargeting?_texts (plain : BeginsPlain ids) :
    ofTargeting? (Json.texts ids) = some (if ids = [] then node .and [] else anyOf ids) := by
  cases ids with
  | nil => rfl
  | cons id ids =>
    have nonempty : decoded (Json.texts (id :: ids)) ≠ .arr [] := by simp [decoded, Json.texts]
    have word : operator? (.str id) = none := operator?_eq_none (plain id rfl)
    -- No operator is taken from the front of the list, so the first id is an operand as well.
    have items : ofItems? Json.text? ((id :: ids).map .str) = some (anyOf (id :: ids)) := by
      simp [ofItems?, word, ofOperands?_ids, ofValue?, Json.text?, anyOf]
    rw [ofTargeting?, ofJson?_eq_ofValue? nonempty, if_neg (List.cons_ne_nil id ids)]
    exact ofValue?_arr.trans items

end Tree

namespace Evaluator

open Audience (Notice)

variable {ids : List String}

/-- A user belongs to any of some audiences if the answer for one of them is yes. -/
theorem evaluate_anyOf (e : Evaluator) (catalogue : Catalogue) (user : User) (log : List Notice) :
    (e.evaluate (some (Tree.anyOf ids)) catalogue user log).1 = true ↔
      ∃ id ∈ ids, e.audienceAnswer catalogue user id = .yes := by
  have holds_iff (answer : Truth) : answer.holds = true ↔ answer = .yes := beq_iff_eq
  rw [evaluate_fst, Option.all_some, holds_iff, Tree.anyOf, Tree.value_node,
    Operator.combine_or_eq_yes_iff, List.map_map]
  exact List.mem_map

/-- Let the first one of some ids be no word for an operator. Then the list of the ids can be read. If
there is an id then it is read as any of them. A user is in any of them if the answer for one is yes, and
is targeted by the list if this is so or if there is no id. So the two answers are the same, whatever the
audiences and whoever the user, if and only if there is an id. -/
theorem listed_iff (plain : Tree.BeginsPlain ids) :
    ∃ listed, Tree.ofTargeting? (Json.texts ids) = some listed ∧
      (ids ≠ [] → listed = Tree.anyOf ids) ∧
      ∀ (e : Evaluator) (catalogue : Catalogue) (user : User) (log : List Notice),
        let inAny := (e.evaluate (some (Tree.anyOf ids)) catalogue user log).1
        let targeted := (e.evaluate (some listed) catalogue user log).1
        (inAny = true ↔ ∃ id ∈ ids, e.audienceAnswer catalogue user id = .yes) ∧
        (targeted = true ↔ ids = [] ∨ ∃ id ∈ ids, e.audienceAnswer catalogue user id = .yes) ∧
        (targeted = inAny ↔ ids ≠ []) := by
  refine ⟨_, Tree.ofTargeting?_texts plain, fun some => if_neg some, ?_⟩
  intro e catalogue user log inAny targeted
  have any : inAny = true ↔ ∃ id ∈ ids, e.audienceAnswer catalogue user id = .yes :=
    e.evaluate_anyOf catalogue user log
  refine ⟨any, ?_⟩
  -- Without any id the list is the empty conjunction, and any of them the empty disjunction.
  by_cases none : ids = []
  · have everyone : targeted = true := by
      show (e.evaluate (some (if ids = [] then Tree.node .and [] else _)) catalogue user log).1 = true
      rw [if_pos none]
      rfl
    have no_one : inAny ≠ true := by simp [any, none]
    rw [everyone]
    exact ⟨by simp [none], fun same => absurd same.symm no_one, fun some => absurd none some⟩
  · have same : targeted = inAny := by
      show (e.evaluate (some (if ids = [] then _ else Tree.anyOf ids)) catalogue user log).1 = _
      rw [if_neg none]
    rw [same]
    exact ⟨any.trans (by simp [none]), fun _ => none, fun _ => rfl⟩

/-- The second id is the word for an operator, and the user belongs to the audience of this id. -/
theorem listed_iff_and : ∃ listed, Tree.ofTargeting? (Json.texts ["adults", "and"]) = some listed ∧
    (Evaluator.evaluate {} (some listed)
      (Function.update (fun _ => none) "and" (some ⟨"and", "Everyone", .node .and []⟩))
      { id := "u" } []).1 = true := by
  obtain ⟨listed, read, -, answers⟩ := @listed_iff ["adults", "and"] (by decide)
  refine ⟨listed, read, ?_⟩
  rw [(answers ..).2.1]
  exact .inr ⟨"and", by decide, by decide⟩

/-- The list without any id includes everyone, and no one belongs to any of no audiences. -/
theorem not_listed_of_nobody :
    ¬ ∀ ids : List String, Tree.BeginsPlain ids → ∀ listed,
      Tree.ofTargeting? (Json.texts ids) = some listed →
      ∀ (e : Evaluator) (catalogue : Catalogue) (user : User) (log : List Notice),
        (e.evaluate (some (Tree.anyOf ids)) catalogue user log).1
          = (e.evaluate (some listed) catalogue user log).1 := by
  intro claim
  have same := claim [] (by decide) (.node .and []) rfl {} (fun _ => none) { id := "u" } []
  exact absurd same (by decide)

end Evaluator

end Targeting
