import Mathlib.Data.List.Perm.Basic
import Mathlib.Logic.Relation
import Targeting.Proofs.Audience.Answer

/-!
# Trees with their operands rearranged

The operands of a conjunction or of a disjunction may be put in another order, one of them may be written
down twice, and those of a conjunction inside another one may stand in the outer one. Evaluation stops early,
so other leaves may be asked for then. But the answer is the value, which looks at every operand, and the
connectives are associative, commutative and idempotent. So whatever is rearranged, however deep in a tree,
the answer stays: that of an audience, and that of a targeting if audiences are rearranged as well.

A negation is no such node. Its operands cannot be rearranged, since with two of them it is not the negation
of one any more.

## Main definitions

* `Tree.Rearranges`, `Tree.Rearranged` — one change in a tree, and any number of them
* `Catalogue.Rearranged` — audiences whose trees are rearranged
* `Operator.Joins` — an operator that joins the answers of its operands, however they are arranged

## Main results

* `Operator.Joins.combine_perm`, `Operator.Joins.combine_cons_of_mem`, `Operator.Joins.combine_splice` — the
  answer of a node from rearranged answers
* `Tree.Rearranged.value_eq` — the value of a rearranged tree
* `Evaluator.answer_of_rearranged` — the answers for audiences and for a targeting
-/

namespace Targeting

/-! ### The answers of operands -/

namespace Operator

/-- An operator joins the answers of its operands, however they are arranged. -/
structure Joins (op : Operator) (join : Truth → Truth → Truth) (unit : Truth) : Prop where
  combine : ∀ answers, op.combine answers = answers.foldr join unit
  assoc : Std.Associative join
  comm : Std.Commutative join
  idem : ∀ answer, join answer answer = answer
  unit_join : ∀ answer, join unit answer = answer

theorem joins_and : Operator.and.Joins Truth.and .yes where
  combine := combine_and
  assoc := ⟨Truth.and_assoc⟩
  comm := ⟨Truth.and_comm⟩
  idem answer := by cases answer <;> rfl
  unit_join := Truth.yes_and

theorem joins_or : Operator.or.Joins Truth.or .no where
  combine := combine_or
  assoc := ⟨Truth.or_assoc⟩
  comm := ⟨Truth.or_comm⟩
  idem answer := by cases answer <;> rfl
  unit_join := Truth.no_or

theorem exists_joins {op : Operator} (h : op ≠ .not) : ∃ join unit, op.Joins join unit := by
  cases op with
  | and => exact ⟨_, _, joins_and⟩
  | or => exact ⟨_, _, joins_or⟩
  | not => exact absurd rfl h

namespace Joins

variable {op : Operator} {join : Truth → Truth → Truth} {unit answer : Truth}
  {as bs cs : List Truth} (h : op.Joins join unit)
include h

theorem combine_perm (same : as.Perm bs) : op.combine as = op.combine bs := by
  have := h.assoc
  have := h.comm
  rw [h.combine, h.combine, same.foldr_eq]

/-- An answer that occurs may occur once more. -/
theorem combine_cons_of_mem (member : answer ∈ as) : op.combine (answer :: as) = op.combine as := by
  have first : as.Perm (answer :: as.erase answer) := List.perm_cons_erase member
  rw [h.combine_perm (first.cons answer), h.combine_perm first, h.combine, h.combine, List.foldr_cons,
    List.foldr_cons, ← h.assoc.assoc, h.idem]

/-- The answer of a node inside may be replaced by the answers of its operands. -/
theorem combine_splice : op.combine (as ++ op.combine bs :: cs) = op.combine (as ++ (bs ++ cs)) := by
  have := h.assoc
  have inside : join (bs.foldr join unit) (cs.foldr join unit) =
      bs.foldr join (cs.foldr join unit) := by
    exact List.foldr_assoc.symm.trans (by rw [h.unit_join])
  rw [h.combine, h.combine, h.combine, List.foldr_append, List.foldr_append, List.foldr_append,
    List.foldr_cons, inside]

end Joins

end Operator

/-! ### Trees -/

namespace Tree

variable {α : Type} {t u : Tree α}

/-- One change in a tree, at a node that is not a negation. The node may stand anywhere. -/
inductive Rearranges : Tree α → Tree α → Prop
  /-- Operands change their places. -/
  | permute {op : Operator} (joins : op ≠ .not) {ts us : List (Tree α)} (same : ts.Perm us) :
    Rearranges (node op ts) (node op us)
  /-- An operand is written down once more, at any place. -/
  | duplicate {op : Operator} (joins : op ≠ .not) {t : Tree α} {ts us : List (Tree α)}
    (member : t ∈ ts ++ us) : Rearranges (node op (ts ++ us)) (node op (ts ++ t :: us))
  /-- The operands of a node take its place in another node with the same operator. -/
  | splice {op : Operator} (joins : op ≠ .not) (ts us vs : List (Tree α)) :
    Rearranges (node op (ts ++ node op us :: vs)) (node op (ts ++ (us ++ vs)))
  /-- The change is in an operand, below any operator. -/
  | inside {t u : Tree α} (change : Rearranges t u) (op : Operator) (ts us : List (Tree α)) :
    Rearranges (node op (ts ++ t :: us)) (node op (ts ++ u :: us))

/-- Any number of changes lead from one tree to the other, each of them made or undone. -/
def Rearranged : Tree α → Tree α → Prop := Relation.EqvGen Rearranges

theorem Rearranges.value_eq (h : t.Rearranges u) (answer : α → Truth) :
    t.value answer = u.value answer := by
  induction h with
  | permute joins same =>
    obtain ⟨join, unit, h⟩ := Operator.exists_joins joins
    rw [value_node, value_node, h.combine_perm (same.map _)]
  | @duplicate op joins t ts us member =>
    obtain ⟨join, unit, h⟩ := Operator.exists_joins joins
    rw [value_node, value_node, h.combine_perm (List.perm_middle.map _), List.map_cons,
      h.combine_cons_of_mem (List.mem_map_of_mem member)]
  | splice joins ts us vs =>
    obtain ⟨join, unit, h⟩ := Operator.exists_joins joins
    simp only [value_node, List.map_append, List.map_cons, h.combine_splice]
  | inside change op ts us ih => simp only [value_node, List.map_append, List.map_cons, ih]

theorem Rearranged.value_eq (h : t.Rearranged u) (answer : α → Truth) :
    t.value answer = u.value answer := by
  induction h with
  | rel t u change => exact change.value_eq answer
  | refl t => rfl
  | symm t u _ ih => exact ih.symm
  | trans t u v _ _ first second => exact first.trans second

/-- Before an empty disjunction a leaf is asked for, and behind it nothing is. -/
theorem exists_rearranged_asked (answer : α → Truth) (a : α) :
    ∃ t u : Tree α, t.Rearranged u ∧ t.asked answer = [a] ∧ u.asked answer = [] := by
  refine ⟨node .and [leaf a, node .or []], node .and [node .or [], leaf a],
    .rel _ _ (.permute (nofun : Operator.and ≠ .not) (.swap ..)), ?_, ?_⟩
  · rw [asked_eq_visited]
    by_cases decided : answer a = .no <;> simp [Operator.consulted, upTo, decided]
  · rw [asked_eq_visited]
    rfl

end Tree

/-! ### Audiences -/

/-- Under each id there is no audience before and none after, or the tree of conditions is rearranged. -/
def Catalogue.Rearranged (c d : Catalogue) : Prop :=
  ∀ id, Option.Rel (fun a b : Audience => a.conditions.Rearranged b.conditions) (c id) (d id)

namespace Evaluator

variable {catalogue catalogue' : Catalogue} (e : Evaluator) (user : User)

theorem audienceAnswer_of_rearranged (h : catalogue.Rearranged catalogue') :
    e.audienceAnswer catalogue user = e.audienceAnswer catalogue' user := by
  funext id
  have related := h id
  unfold audienceAnswer
  generalize catalogue id = before, catalogue' id = after at related
  cases related with
  | none => rfl
  | some rearranged => exact rearranged.value_eq _

/-- However the operands of conjunctions and of disjunctions are rearranged, in a targeting and in the trees
of conditions of audiences, the answer for every audience and the answer for the targeting stay, whatever has
been said before. The leaves that are asked for may be others. -/
theorem answer_of_rearranged :
    (∀ {catalogue catalogue' : Catalogue} {targeting targeting' : Option (Tree String)},
      catalogue.Rearranged catalogue' → Option.Rel Tree.Rearranged targeting targeting' →
      ∀ log log',
        (∀ id, (e.askAudience catalogue user id log).1 =
          (e.askAudience catalogue' user id log').1) ∧
        (e.evaluate targeting catalogue user log).1 =
          (e.evaluate targeting' catalogue' user log').1) ∧
    (∀ catalogue, ∃ t u : Tree String, t.Rearranged u ∧
      t.asked (e.audienceAnswer catalogue user) ≠ u.asked (e.audienceAnswer catalogue user)) ∧
    ∃ t u : Tree Condition, t.Rearranged u ∧
      t.asked (e.answer user) ≠ u.asked (e.answer user) := by
  refine ⟨fun {catalogue catalogue' targeting targeting'} audiences trees log log' => ?_,
    fun catalogue => ?_, ?_⟩
  · have same := e.audienceAnswer_of_rearranged user audiences
    refine ⟨fun id => ?_, ?_⟩
    · rw [askAudience_fst, askAudience_fst, same]
    · rw [evaluate_fst, evaluate_fst, same]
      cases trees with
      | none => rfl
      | some rearranged => exact congrArg Truth.holds (rearranged.value_eq _)
  · obtain ⟨t, u, rearranged, before, after⟩ :=
      Tree.exists_rearranged_asked (e.audienceAnswer catalogue user) ""
    exact ⟨t, u, rearranged, by simp [before, after]⟩
  · obtain ⟨t, u, rearranged, before, after⟩ :=
      Tree.exists_rearranged_asked (e.answer user) { kind := "" }
    exact ⟨t, u, rearranged, by simp [before, after]⟩

/-- An audience with one conjunction inside another one, and with both together. Below a negation the
audiences are in another order, and the one that is missing is asked for first. -/
theorem answer_of_rearranged_nested :
    let asks (name : String) : Tree Condition := .leaf { name, kind := "custom_attribute" }
    let only (conditions : Tree Condition) : Catalogue := fun id =>
      if id = "payers" then some { id, name := id, conditions } else none
    let nested := only (.node .and [asks "plan", .node .and [asks "age", asks "country"]])
    let flat := only (.node .and [asks "plan", asks "age", asks "country"])
    let early : Tree String := .node .not [.node .or [.leaf "payers", .leaf "guests"]]
    let late : Tree String := .node .not [.node .or [.leaf "guests", .leaf "payers"]]
    let user : User := { id := "u", attributes := [("plan", .null)] }
    nested.Rearranged flat ∧ early.Rearranged late ∧
      (Evaluator.evaluate {} (some early) nested user []).1 =
        (Evaluator.evaluate {} (some late) flat user []).1 := by
  intro asks only nested flat early late user
  have audiences : nested.Rearranged flat := by
    intro id
    by_cases known : id = "payers"
    · simp only [nested, flat, only, if_pos known]
      exact .some (.rel _ _ (.splice (nofun : Operator.and ≠ .not) [asks "plan"] _ []))
    · simp only [nested, flat, only, if_neg known]
      exact .none
  have targeting : early.Rearranged late :=
    .rel _ _ (.inside (.permute (nofun : Operator.or ≠ .not) (.swap ..)) .not [] [])
  exact ⟨audiences, targeting,
    ((answer_of_rearranged {} user).1 audiences (.some targeting) [] []).2⟩

end Evaluator

end Targeting
