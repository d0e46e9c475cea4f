import Targeting.Proofs.Tree.Evaluation

/-!
# Trees in the place of leaves

A tree may stand in the place of every leaf of another tree. The early stops make no difference to it:
evaluating the whole is evaluating the outer tree, where asking for a leaf means evaluating the tree in
its place. This holds as an equation between computations, so it holds of the answer, of the state, and
of everything that is asked for on the way.

The second half compares computations that differ in what they do besides. A relation between two kinds
of computations that is kept by their sequence holds of evaluations if it holds of asking for leaves. Two
computations go in *lockstep* under a relation between their states if they give the same answers from
related states and leave related states behind, and trees are evaluated in lockstep if their leaves are
asked for in lockstep.

## Main definitions

* `Tree.graft` — a tree with other trees in the place of its leaves
* `Lockstep` — computations with the same answers and related states

## Main results

* `Tree.evaluate_graft` — evaluation of the whole by evaluation of its parts
* `Tree.evaluate_related` — evaluations that are related because asking for leaves is
* `Lockstep.evaluate` — evaluation in lockstep
-/

namespace Targeting

namespace Tree

variable {α β : Type} {m n : Type → Type} [Monad m] [Monad n]

/-! ### Grafts -/

mutual

/-- The tree with another tree in the place of each leaf. -/
def graft (scion : α → Tree β) : Tree α → Tree β
  | .leaf a => scion a
  | .node op operands => .node op (graftAll scion operands)

/-- Several trees with other trees in the place of their leaves. -/
def graftAll (scion : α → Tree β) : List (Tree α) → List (Tree β)
  | [] => []
  | t :: ts => graft scion t :: graftAll scion ts

end

theorem graftAll_eq_map (scion : α → Tree β) (ts : List (Tree α)) :
    graftAll scion ts = ts.map (graft scion) := by
  induction ts with
  | nil => rfl
  | cons t ts ih => rw [graftAll, List.map_cons, ih]

@[simp] theorem graft_leaf (scion : α → Tree β) (a : α) : (leaf a).graft scion = scion a := rfl

@[simp] theorem graft_node (scion : α → Tree β) (op : Operator) (ts : List (Tree α)) :
    (node op ts).graft scion = node op (ts.map (graft scion)) := by
  rw [graft, graftAll_eq_map]

section

variable (scion : α → Tree β) (ask : β → m Truth)

theorem evaluateUntil_graft {ts : List (Tree α)}
    (ih : ∀ t ∈ ts, (t.graft scion).evaluate ask = t.evaluate fun a => (scion a).evaluate ask)
    (stop unit : Truth) (join : Truth → Truth → Truth) :
    evaluateUntil stop unit join ask (ts.map (graft scion)) =
      evaluateUntil stop unit join (fun a => (scion a).evaluate ask) ts := by
  induction ts with
  | nil => rfl
  | cons t ts rest =>
    rw [List.map_cons, evaluateUntil, evaluateUntil, ih t List.mem_cons_self,
      rest fun u hu => ih u (List.mem_cons_of_mem t hu)]

/-- Evaluating the whole is evaluating the outer tree, where the tree in the place of a leaf is
evaluated when the leaf is asked for. -/
theorem evaluate_graft (t : Tree α) :
    (t.graft scion).evaluate ask = t.evaluate fun a => (scion a).evaluate ask := by
  induction t with
  | leaf a => simp [evaluate]
  | node op ts ih =>
    rw [graft_node]
    cases op with
    | and => rw [evaluate_and, evaluate_and, evaluateUntil_graft scion ask ih]
    | or => rw [evaluate_or, evaluate_or, evaluateUntil_graft scion ask ih]
    | not =>
      by_cases sole : ts.length = 1
      · obtain ⟨t, rfl⟩ := List.length_eq_one_iff.mp sole
        rw [List.map_singleton, evaluate_not_sole, evaluate_not_sole, ih t List.mem_cons_self]
      · rw [evaluate_not_of_ne _ (by rwa [List.length_map]), evaluate_not_of_ne _ sole]

end

/-! ### Related computations -/

section

variable {R : ∀ {γ : Type}, m γ → n γ → Prop} (pure : ∀ {γ : Type} (x : γ), R (pure x) (pure x))
  (bind : ∀ {γ δ : Type} {x : m γ} {y : n γ} {f : γ → m δ} {g : γ → n δ},
    R x y → (∀ a, R (f a) (g a)) → R (x >>= f) (y >>= g))
  {ask : α → m Truth} {ask' : α → n Truth}
include pure bind

theorem evaluateUntil_related {ts : List (Tree α)}
    (ih : ∀ t ∈ ts, R (t.evaluate ask) (t.evaluate ask')) (stop unit : Truth)
    (join : Truth → Truth → Truth) :
    R (evaluateUntil stop unit join ask ts) (evaluateUntil stop unit join ask' ts) := by
  induction ts with
  | nil => exact pure unit
  | cons t ts rest =>
    refine bind (ih t List.mem_cons_self) fun answer => ?_
    split
    · exact pure stop
    · exact bind (rest fun u hu => ih u (List.mem_cons_of_mem t hu)) fun _ => pure _

/-- Evaluations are related if asking for leaves is, by a relation that is kept by answers without
further ado and by one computation after another. -/
theorem evaluate_related (asked : ∀ a, R (ask a) (ask' a)) (t : Tree α) :
    R (t.evaluate ask) (t.evaluate ask') := by
  induction t with
  | leaf a =>
    rw [evaluate, evaluate]
    exact asked a
  | node op ts ih =>
    cases op with
    | and =>
      rw [evaluate_and, evaluate_and]
      exact evaluateUntil_related pure bind ih _ _ _
    | or =>
      rw [evaluate_or, evaluate_or]
      exact evaluateUntil_related pure bind ih _ _ _
    | not =>
      by_cases sole : ts.length = 1
      · obtain ⟨t, rfl⟩ := List.length_eq_one_iff.mp sole
        rw [evaluate_not_sole, evaluate_not_sole]
        exact bind (ih t List.mem_cons_self) fun _ => pure _
      · rw [evaluate_not_of_ne _ sole, evaluate_not_of_ne _ sole]
        exact pure Truth.unknown

end

end Tree

/-! ### Lockstep -/

section

variable {α σ τ γ δ : Type} {R : σ → τ → Prop}

/-- Two computations go in lockstep: from related states they give the same answer and leave related
states behind. -/
def Lockstep (R : σ → τ → Prop) (m : StateM σ γ) (n : StateM τ γ) : Prop :=
  ∀ ⦃s t⦄, R s t → (m s).1 = (n t).1 ∧ R (m s).2 (n t).2

namespace Lockstep

theorem pure (x : γ) : Lockstep R (pure x) (pure x) := fun _ _ related => ⟨rfl, related⟩

theorem bind {m : StateM σ γ} {n : StateM τ γ} {f : γ → StateM σ δ} {g : γ → StateM τ δ}
    (h : Lockstep R m n) (k : ∀ x, Lockstep R (f x) (g x)) : Lockstep R (m >>= f) (n >>= g) := by
  intro s t related
  obtain ⟨same, after⟩ := h related
  have next := k (m s).1 after
  rw [same] at next
  change (f (m s).1 (m s).2).1 = _ ∧ R (f (m s).1 (m s).2).2 _
  rw [same]
  exact next

/-- What one of the two does besides does not matter, if it leaves related states behind. -/
theorem after_silent {m : StateM σ Unit} (silent : ∀ ⦃s t⦄, R s t → R (m s).2 t) {f : StateM σ γ}
    {n : StateM τ γ} (h : Lockstep R f n) : Lockstep R (m >>= fun _ => f) n :=
  fun _ _ related => h (silent related)

variable {ask : α → StateM σ Truth} {ask' : α → StateM τ Truth}

/-- Trees are evaluated in lockstep if their leaves are asked for in lockstep. -/
theorem evaluate (h : ∀ a, Lockstep R (ask a) (ask' a)) (t : Tree α) :
    Lockstep R (t.evaluate ask) (t.evaluate ask') :=
  Tree.evaluate_related pure bind h t

end Lockstep

end

end Targeting
