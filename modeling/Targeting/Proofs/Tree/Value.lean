import Mathlib.Data.List.Basic
import Mathlib.Data.List.Flatten
import Mathlib.Data.List.Fold
import Targeting.Tree.Basic

/-!
# The value of a condition tree

Evaluation of a condition tree stops early and may change a state on its way. Here stands what it is
measured against. The *value* of a tree looks at every operand of every node: a conjunction folds
the values of its operands, and so does a disjunction. The *visited* leaves are those that matter
for the value when operands are looked at from left to right: nothing behind the first operand that
decides its node, and nothing at all below a negation that has not exactly one operand.

Neither definition mentions a state. Both depend on the answers of the leaves of the tree only.

## Main definitions

* `Operator.combine`, `Tree.value` — the answer of a node, and of a tree, from those of all its
  parts
* `Operator.consulted`, `Tree.visited` — the operands, and the leaves, that matter for the answer

## Main results

* `Tree.induction` — induction over trees, with all operands of a node at hand
* `Tree.value_congr`, `Tree.visited_congr` — only the answers of the leaves matter
* `Tree.visited_sublist` — the visited leaves are some of the leaves, in their order
-/

namespace Targeting

section UpTo

variable {γ δ : Type}

/-- The elements of a list up to the first one with a property, and that one as well. -/
def upTo (p : γ → Bool) : List γ → List γ
  | [] => []
  | x :: xs => if p x then [x] else x :: upTo p xs

theorem upTo_sublist (p : γ → Bool) (xs : List γ) : (upTo p xs).Sublist xs := by
  induction xs with
  | nil => exact .slnil
  | cons x xs ih =>
    rw [upTo]
    split
    · exact (List.nil_sublist xs).cons_cons x
    · exact ih.cons_cons x

theorem upTo_map (f : γ → δ) (p : δ → Bool) (xs : List γ) :
    upTo p (xs.map f) = (upTo (fun x => p (f x)) xs).map f := by
  induction xs with
  | nil => rfl
  | cons x xs ih =>
    rw [List.map_cons, upTo, upTo, ih]
    split <;> rfl

theorem upTo_congr {p q : γ → Bool} {xs : List γ} (h : ∀ x ∈ xs, p x = q x) :
    upTo p xs = upTo q xs := by
  induction xs with
  | nil => rfl
  | cons x xs ih =>
    rw [upTo, upTo, h x List.mem_cons_self, ih fun y hy => h y (List.mem_cons_of_mem x hy)]

end UpTo

namespace Operator

variable {γ δ : Type}

/-- The answer of a node, given the answers of all its operands. -/
def combine : Operator → List Truth → Truth
  | .and, answers => answers.foldl Truth.and .yes
  | .or, answers => answers.foldl Truth.or .no
  | .not, [answer] => answer.not
  | .not, _ => .unknown

/-- The operands of a node that matter for its answer, given the answer of each one. -/
def consulted (answer : γ → Truth) : Operator → List γ → List γ
  | .and, operands => upTo (answer · = .no) operands
  | .or, operands => upTo (answer · = .yes) operands
  | .not, [operand] => [operand]
  | .not, _ => []

/-! ### Folds from the other end

The folds take the operands from the left. A recursion over the operands meets them from the right,
and since the connectives are associative and commutative, both give the same answer. -/

theorem combine_and (answers : List Truth) :
    Operator.and.combine answers = answers.foldr Truth.and .yes := by
  have : Std.Associative Truth.and := ⟨Truth.and_assoc⟩
  have : Std.Commutative Truth.and := ⟨Truth.and_comm⟩
  exact List.foldl_eq_foldr

theorem combine_or (answers : List Truth) :
    Operator.or.combine answers = answers.foldr Truth.or .no := by
  have : Std.Associative Truth.or := ⟨Truth.or_assoc⟩
  have : Std.Commutative Truth.or := ⟨Truth.or_comm⟩
  exact List.foldl_eq_foldr

/-- A disjunction holds if one of its operands does. -/
theorem combine_or_eq_yes_iff {answers : List Truth} :
    Operator.or.combine answers = .yes ↔ .yes ∈ answers := by
  rw [combine_or]
  induction answers with
  | nil => simp
  | cons answer answers ih =>
    have split (rest : Truth) : answer.or rest = .yes ↔ answer = .yes ∨ rest = .yes := by
      cases answer <;> cases rest <;> decide
    rw [List.foldr_cons, split, ih, List.mem_cons, eq_comm]

theorem combine_not {answers : List Truth} (h : answers.length ≠ 1) :
    Operator.not.combine answers = .unknown := by
  match answers with
  | [] => rfl
  | [_] => exact absurd rfl h
  | _ :: _ :: _ => rfl

theorem consulted_not (answer : γ → Truth) {operands : List γ} (h : operands.length ≠ 1) :
    Operator.not.consulted answer operands = [] := by
  match operands with
  | [] => rfl
  | [_] => exact absurd rfl h
  | _ :: _ :: _ => rfl

theorem consulted_sublist (answer : γ → Truth) (op : Operator) (operands : List γ) :
    (op.consulted answer operands).Sublist operands := by
  cases op with
  | and => exact upTo_sublist _ operands
  | or => exact upTo_sublist _ operands
  | not =>
    by_cases h : operands.length = 1
    · obtain ⟨operand, rfl⟩ := List.length_eq_one_iff.mp h
      exact .refl [operand]
    · rw [consulted_not answer h]
      exact List.nil_sublist operands

theorem consulted_map (answer : δ → Truth) (f : γ → δ) (op : Operator) (operands : List γ) :
    op.consulted answer (operands.map f) =
      (op.consulted (fun x => answer (f x)) operands).map f := by
  cases op with
  | and => exact upTo_map f _ operands
  | or => exact upTo_map f _ operands
  | not =>
    match operands with
    | [] => rfl
    | [_] => rfl
    | _ :: _ :: _ => rfl

theorem consulted_congr {f g : γ → Truth} {operands : List γ}
    (h : ∀ x ∈ operands, f x = g x) (op : Operator) :
    op.consulted f operands = op.consulted g operands := by
  cases op with
  | and =>
    apply upTo_congr
    intro x hx
    rw [h x hx]
  | or =>
    apply upTo_congr
    intro x hx
    rw [h x hx]
  | not =>
    match operands with
    | [] => rfl
    | [_] => rfl
    | _ :: _ :: _ => rfl

end Operator

namespace Tree

variable {α : Type}

/-- Induction over trees: what is shown of a node may be assumed of each of its operands. -/
@[elab_as_elim, induction_eliminator]
theorem induction {motive : Tree α → Prop} (leaf : ∀ a, motive (.leaf a))
    (node : ∀ op operands, (∀ t ∈ operands, motive t) → motive (.node op operands))
    (t : Tree α) : motive t :=
  -- The operands are a list of their own in the recursor; of such a list the claim is made member
  -- by member.
  @Tree.rec α motive (fun ts => ∀ t ∈ ts, motive t) leaf node (by simp)
    (fun _ _ head tail => List.forall_mem_cons.mpr ⟨head, tail⟩) t

theorem leavesOf_eq_flatMap (ts : List (Tree α)) : leavesOf ts = ts.flatMap leaves := by
  induction ts with
  | nil => rfl
  | cons t ts ih => rw [leavesOf, List.flatMap_cons, ih]

@[simp] theorem leaves_leaf (a : α) : (leaf a).leaves = [a] := rfl

@[simp] theorem leaves_node (op : Operator) (ts : List (Tree α)) :
    (node op ts).leaves = ts.flatMap leaves :=
  leavesOf_eq_flatMap ts

theorem mem_leaves_node {op : Operator} {ts : List (Tree α)} {t : Tree α} {a : α}
    (ht : t ∈ ts) (ha : a ∈ t.leaves) : a ∈ (node op ts).leaves := by
  rw [leaves_node]
  exact List.mem_flatMap.mpr ⟨t, ht, ha⟩

/-! ### The value -/

mutual

/-- The answer of a tree, when every operand of every node is looked at. -/
def value (answer : α → Truth) : Tree α → Truth
  | .leaf a => answer a
  | .node op operands => op.combine (valuesOf answer operands)

/-- The values of several trees. -/
def valuesOf (answer : α → Truth) : List (Tree α) → List Truth
  | [] => []
  | t :: ts => value answer t :: valuesOf answer ts

end

theorem valuesOf_eq_map (answer : α → Truth) (ts : List (Tree α)) :
    valuesOf answer ts = ts.map (value answer) := by
  induction ts with
  | nil => rfl
  | cons t ts ih => rw [valuesOf, List.map_cons, ih]

@[simp] theorem value_leaf (answer : α → Truth) (a : α) : (leaf a).value answer = answer a := rfl

@[simp] theorem value_node (answer : α → Truth) (op : Operator) (ts : List (Tree α)) :
    (node op ts).value answer = op.combine (ts.map (value answer)) := by
  rw [value, valuesOf_eq_map]

theorem value_congr {f g : α → Truth} {t : Tree α} (h : ∀ a ∈ t.leaves, f a = g a) :
    t.value f = t.value g := by
  induction t with
  | leaf a => exact h a List.mem_cons_self
  | node op ts ih =>
    have same : ts.map (value f) = ts.map (value g) := by
      apply List.map_congr_left
      intro t ht
      exact ih t ht fun a ha => h a (mem_leaves_node ht ha)
    rw [value_node, value_node, same]

/-! ### The visited leaves -/

mutual

/-- The leaves that matter for the value of a tree, from left to right. -/
def visited (answer : α → Truth) : Tree α → List α
  | .leaf a => [a]
  | .node op operands => (op.consulted Prod.fst (visitsOf answer operands)).flatMap Prod.snd

/-- The value of each of several trees, with the leaves that matter for it. -/
def visitsOf (answer : α → Truth) : List (Tree α) → List (Truth × List α)
  | [] => []
  | t :: ts => (value answer t, visited answer t) :: visitsOf answer ts

end

theorem visitsOf_eq_map (answer : α → Truth) (ts : List (Tree α)) :
    visitsOf answer ts = ts.map fun t => (t.value answer, t.visited answer) := by
  induction ts with
  | nil => rfl
  | cons t ts ih => rw [visitsOf, List.map_cons, ih]

@[simp] theorem visited_leaf (answer : α → Truth) (a : α) : (leaf a).visited answer = [a] := rfl

/-- Below a node, exactly the operands that matter for its answer are visited. -/
@[simp] theorem visited_node (answer : α → Truth) (op : Operator) (ts : List (Tree α)) :
    (node op ts).visited answer = (op.consulted (value answer) ts).flatMap (visited answer) := by
  rw [visited, visitsOf_eq_map, Operator.consulted_map, List.flatMap_map]

theorem visited_congr {f g : α → Truth} {t : Tree α} (h : ∀ a ∈ t.leaves, f a = g a) :
    t.visited f = t.visited g := by
  induction t with
  | leaf a => rfl
  | node op ts ih =>
    have inside {t : Tree α} (ht : t ∈ ts) : ∀ a ∈ t.leaves, f a = g a :=
      fun a ha => h a (mem_leaves_node ht ha)
    rw [visited_node, visited_node, Operator.consulted_congr fun t ht => value_congr (inside ht)]
    apply List.flatMap_congr
    intro t ht
    have member : t ∈ ts := (op.consulted_sublist _ ts).subset ht
    exact ih t member (inside member)

theorem visited_sublist (answer : α → Truth) (t : Tree α) :
    (t.visited answer).Sublist t.leaves := by
  induction t with
  | leaf a => exact .refl [a]
  | node op ts ih =>
    rw [visited_node, leaves_node]
    exact ((op.consulted_sublist _ ts).flatMap _).trans (.flatMap_right ts ih)

example : (node .and [.node .or [.leaf Truth.yes, .leaf .no], .leaf .no, .leaf .yes]).visited id =
    [.yes, .no] := by decide

end Tree

end Targeting
