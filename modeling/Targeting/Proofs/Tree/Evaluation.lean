import Targeting.Proofs.Tree.Value

/-!
# Evaluation with early stops against the value

Evaluating a tree gives its value, and asks for exactly the visited leaves, in their order.

When the answer to a leaf depends on a state, two occurrences of one leaf may be answered
differently. So the leaves are *numbered* from left to right first, and answers are given to
numbers. Whatever the state does to the answers, there is an assignment of answers to numbers under
which the evaluation of the tree gives its value and asks for its visited leaves. The assignment is
glued together operand by operand, and this is where it matters that values and visited leaves
depend on the answers of the own leaves only.

## Main definitions

* `Tree.number` — a tree with the number of each leaf
* `Tree.askNoted` — asking for leaves while they are noted, with their answers
* `Tree.Notes` — an evaluation without notes and one with notes, side by side

## Main results

* `Tree.evaluate_of_answer` — evaluation when the answers do not depend on the state
* `Tree.notes_evaluate` — evaluation when they do
* `Tree.evaluate_eq_value_and_visited` — both together, with the order of the leaves asked for
-/

namespace Targeting.Tree

variable {α σ : Type}

/-! ### Loops over operands

The conjunction and the disjunction of operands are one loop, with different answers to begin with
and to stop at. -/

section Loops

variable {m : Type → Type} [Monad m]

/-- Evaluates operands one after another until one has the answer that decides. -/
def evaluateUntil (stop unit : Truth) (join : Truth → Truth → Truth) (ask : α → m Truth) :
    List (Tree α) → m Truth
  | [] => pure unit
  | t :: ts => do
    let answer ← evaluate ask t
    if answer = stop then pure stop
    else
      let rest ← evaluateUntil stop unit join ask ts
      pure (join answer rest)

variable (ask : α → m Truth)

theorem evaluate_and (ts : List (Tree α)) :
    (node .and ts).evaluate ask = evaluateUntil .no .yes Truth.and ask ts := by
  rw [evaluate]
  induction ts with
  | nil => rw [evaluateAll, evaluateUntil]
  | cons t ts ih => rw [evaluateAll, evaluateUntil, ih]

theorem evaluate_or (ts : List (Tree α)) :
    (node .or ts).evaluate ask = evaluateUntil .yes .no Truth.or ask ts := by
  rw [evaluate]
  induction ts with
  | nil => rw [evaluateAny, evaluateUntil]
  | cons t ts ih => rw [evaluateAny, evaluateUntil, ih]

theorem evaluate_not_sole (t : Tree α) :
    (node .not [t]).evaluate ask = t.evaluate ask >>= fun answer => pure answer.not := by
  rw [evaluate, evaluateSole]
  rfl

theorem evaluate_not_of_ne {ts : List (Tree α)} (h : ts.length ≠ 1) :
    (node .not ts).evaluate ask = pure .unknown := by
  match ts with
  | [] => rw [evaluate, evaluateSole]
  | [_] => exact absurd rfl h
  | _ :: _ :: _ => rw [evaluate, evaluateSole]; rfl

end Loops

section Steps

variable {stop unit : Truth} {join : Truth → Truth → Truth} {ask : α → StateM σ Truth}
  {t : Tree α} {ts : List (Tree α)} {s s₁ s₂ : σ} {answer rest : Truth}

theorem evaluateUntil_stop (h : t.evaluate ask s = (stop, s₁)) :
    evaluateUntil stop unit join ask (t :: ts) s = (stop, s₁) := by
  simp only [evaluateUntil, bind, StateT.bind, h, if_true]
  rfl

theorem evaluateUntil_next (h : t.evaluate ask s = (answer, s₁)) (undecided : answer ≠ stop)
    (hrest : evaluateUntil stop unit join ask ts s₁ = (rest, s₂)) :
    evaluateUntil stop unit join ask (t :: ts) s = (join answer rest, s₂) := by
  simp only [evaluateUntil, bind, StateT.bind, h, if_neg undecided, hrest]
  rfl

theorem evaluate_sole (h : t.evaluate ask s = (answer, s₁)) :
    (node .not [t]).evaluate ask s = (answer.not, s₁) := by
  simp only [evaluate_not_sole, bind, StateT.bind, h]
  rfl

theorem evaluate_not (h : ts.length ≠ 1) :
    (node .not ts).evaluate ask s = (.unknown, s) :=
  congrFun (evaluate_not_of_ne ask h) s

end Steps

/-! ### Answers that do not depend on the state -/

section Plain

variable {ask : α → StateM σ Truth} {answer : α → Truth} {next : σ → α → σ}

theorem evaluateUntil_of_answer {stop unit : Truth} {join : Truth → Truth → Truth}
    (join_stop : ∀ v, join stop v = stop) {ts : List (Tree α)}
    (ih : ∀ t ∈ ts, ∀ s, t.evaluate ask s = (t.value answer, (t.visited answer).foldl next s)) :
    ∀ s, evaluateUntil stop unit join ask ts s =
      ((ts.map (value answer)).foldr join unit,
        ((upTo (value answer · = stop) ts).flatMap (visited answer)).foldl next s) := by
  -- The operands are taken from the left, and the state goes on from one to the next.
  induction ts with
  | nil =>
    intro s
    rfl
  | cons t ts rest =>
    intro s
    have first := ih t List.mem_cons_self s
    by_cases decided : t.value answer = stop
    · rw [decided] at first
      simpa [upTo, decided, join_stop] using evaluateUntil_stop first
    · have tail := rest (fun u hu => ih u (List.mem_cons_of_mem t hu))
        ((t.visited answer).foldl next s)
      simpa [upTo, decided] using evaluateUntil_next first decided tail

/-- If the answers do not depend on the state, the result is the value, and the state changes with
each visited leaf in turn. -/
theorem evaluate_of_answer (plain : ∀ a s, ask a s = (answer a, next s a)) (t : Tree α) :
    ∀ s, t.evaluate ask s = (t.value answer, (t.visited answer).foldl next s) := by
  induction t with
  | leaf a =>
    intro s
    simpa [evaluate] using plain a s
  | node op ts ih =>
    intro s
    cases op with
    | and =>
      rw [evaluate_and, evaluateUntil_of_answer Truth.no_and ih, value_node, visited_node,
        Operator.combine_and]
      rfl
    | or =>
      rw [evaluate_or, evaluateUntil_of_answer Truth.yes_or ih, value_node, visited_node,
        Operator.combine_or]
      rfl
    | not =>
      by_cases sole : ts.length = 1
      · obtain ⟨t, rfl⟩ := List.length_eq_one_iff.mp sole
        simpa [Operator.combine, Operator.consulted] using
          evaluate_sole (ih t List.mem_cons_self s)
      · simp [evaluate_not sole, Operator.combine_not, Operator.consulted_not, sole]

theorem evaluatePure_eq_value (answer : α → Truth) (t : Tree α) :
    t.evaluatePure answer = t.value answer :=
  congrArg Prod.fst (evaluate_of_answer (fun _ _ => rfl) t ())

theorem asked_eq_visited (answer : α → Truth) (t : Tree α) :
    t.asked answer = t.visited answer := by
  have run : t.evaluate (askRecorded answer) [] =
      (t.value answer, (t.visited answer).foldl (fun log a => log ++ [a]) []) :=
    evaluate_of_answer (fun _ _ => rfl) t []
  rw [asked, run]
  simp [List.foldl_append_eq_append, ← List.flatMap_def]

end Plain

/-! ### Leaves with numbers -/

mutual

/-- The tree with the number of each leaf, counted from left to right. -/
def number (n : Nat) : Tree α → Tree (α × Nat)
  | .leaf a => .leaf (a, n)
  | .node op operands => .node op (numberAll n operands)

/-- Several trees with the number of each leaf, counted on from one tree to the next. -/
def numberAll (n : Nat) : List (Tree α) → List (Tree (α × Nat))
  | [] => []
  | t :: ts => number n t :: numberAll (n + t.leaves.length) ts

end

theorem length_numberAll (n : Nat) (ts : List (Tree α)) :
    (numberAll n ts).length = ts.length := by
  induction ts generalizing n with
  | nil => rfl
  | cons t ts ih => rw [numberAll, List.length_cons, List.length_cons, ih]

/-- Numbers tell occurrences apart: they are the places in the list of leaves. -/
theorem leaves_number (t : Tree α) : ∀ n, (t.number n).leaves = t.leaves.zipIdx n := by
  induction t with
  | leaf a =>
    intro n
    rfl
  | node op ts ih =>
    intro n
    rw [number, leaves_node, leaves_node]
    -- Behind an operand the count goes on by the number of its leaves, as in the list.
    induction ts generalizing n with
    | nil => rfl
    | cons t ts rest =>
      rw [numberAll, List.flatMap_cons, List.flatMap_cons, List.zipIdx_append,
        ih t List.mem_cons_self, rest fun u hu => ih u (List.mem_cons_of_mem t hu)]

theorem le_of_mem_leaves_numberAll {n : Nat} {ts : List (Tree α)} {t : Tree (α × Nat)}
    {a : α × Nat} (ht : t ∈ numberAll n ts) (ha : a ∈ t.leaves) : n ≤ a.2 := by
  -- Any operator will do here: the trees are put under one node to have their leaves in one list.
  have inside : a ∈ (number n (node .and ts)).leaves := mem_leaves_node ht ha
  rw [leaves_number] at inside
  exact List.le_snd_of_mem_zipIdx inside

theorem lt_of_mem_leaves_number {n : Nat} {t : Tree α} {a : α × Nat}
    (ha : a ∈ (t.number n).leaves) : a.2 < n + t.leaves.length := by
  rw [leaves_number] at ha
  exact List.snd_lt_add_of_mem_zipIdx ha

/-! ### Answers that depend on the state -/

/-- A leaf is asked for, and it is noted with its answer. -/
def askNoted (ask : α → StateM σ Truth) (a : α) : StateM (σ × List (α × Truth)) Truth :=
  fun (s, noted) =>
    let (answer, s) := ask a s
    (answer, s, noted ++ [(a, answer)])

/-- The visited leaves of several numbered trees with their answers, when answers are given to
numbers. -/
def visitsIn (answer : Nat → Truth) (ts : List (Tree (α × Nat))) : List (α × Truth) :=
  (ts.flatMap (visited fun a => answer a.2)).map fun a => (a.1, answer a.2)

/-- An evaluation from a state has an answer and ends in another state; the same evaluation with
notes has the same answer and ends in the same state, and it has noted some leaves with their
answers. -/
structure Notes (plain : StateM σ Truth) (noting : StateM (σ × List (α × Truth)) Truth) (s : σ)
    (answer : Truth) (s' : σ) (visits : List (α × Truth)) : Prop where
  plain_eq : plain s = (answer, s')
  noting_eq : ∀ noted, noting (s, noted) = (answer, s', noted ++ visits)

theorem visitsIn_cons (answer : Nat → Truth) (t : Tree (α × Nat)) (ts : List (Tree (α × Nat))) :
    visitsIn answer (t :: ts) = visitsIn answer [t] ++ visitsIn answer ts := by
  simp [visitsIn]

theorem visitsIn_congr {f g : Nat → Truth} {ts : List (Tree (α × Nat))}
    (h : ∀ t ∈ ts, ∀ a ∈ t.leaves, f a.2 = g a.2) : visitsIn f ts = visitsIn g ts := by
  rw [visitsIn, visitsIn, List.flatMap_congr fun t ht => visited_congr (h t ht)]
  apply List.map_congr_left
  intro a ha
  obtain ⟨t, ht, inside⟩ := List.mem_flatMap.mp ha
  rw [h t ht a ((visited_sublist _ t).subset inside)]

/-- Two assignments glued together at a number. -/
def glue (bound : Nat) (early late : Nat → Truth) : Nat → Truth :=
  fun i => if i < bound then early i else late i

/-- The numbers of an operand are below those of all others behind it. -/
theorem glue_of_mem_number (early late : Nat → Truth) (n : Nat) (t : Tree α) :
    ∀ a ∈ (t.number n).leaves, early a.2 = glue (n + t.leaves.length) early late a.2 :=
  fun _ ha => (if_pos (lt_of_mem_leaves_number ha)).symm

theorem glue_of_mem_numberAll (early late : Nat → Truth) (bound : Nat) (ts : List (Tree α)) :
    ∀ u ∈ numberAll bound ts, ∀ a ∈ u.leaves, late a.2 = glue bound early late a.2 :=
  fun _ hu _ ha => (if_neg (Nat.not_lt.mpr (le_of_mem_leaves_numberAll hu ha))).symm

section Stateful

variable (ask : α → StateM σ Truth)

/-- The loop over operands, when each operand evaluates to its value under some answers. -/
theorem notes_evaluateUntil {stop unit : Truth} {join : Truth → Truth → Truth}
    (join_stop : ∀ v, join stop v = stop) {ts : List (Tree α)}
    (ih : ∀ t ∈ ts, ∀ n s, ∃ (answer : Nat → Truth) (s' : σ),
      Notes (t.evaluate ask) (t.evaluate (askNoted ask)) s
        ((t.number n).value fun a => answer a.2) s' (visitsIn answer [t.number n])) :
    ∀ n s, ∃ (answer : Nat → Truth) (s' : σ),
      Notes (evaluateUntil stop unit join ask ts) (evaluateUntil stop unit join (askNoted ask) ts) s
        (((numberAll n ts).map (value fun a => answer a.2)).foldr join unit) s'
        (visitsIn answer (upTo (value (fun a => answer a.2) · = stop) (numberAll n ts))) := by
  induction ts with
  | nil =>
    intro n s
    refine ⟨fun _ => unit, s, rfl, fun noted => ?_⟩
    simp only [numberAll, upTo, visitsIn, List.flatMap_nil, List.map_nil, List.append_nil]
    rfl
  | cons t ts rest =>
    intro n s
    obtain ⟨early, s₁, first⟩ := ih t List.mem_cons_self n s
    by_cases decided : (t.number n).value (fun a => early a.2) = stop
    · rw [decided] at first
      refine ⟨early, s₁, ?_, fun noted => ?_⟩ <;>
        simp only [numberAll, List.map_cons, List.foldr_cons, upTo, decided, join_stop,
          decide_true, if_true]
      · exact evaluateUntil_stop first.plain_eq
      · exact evaluateUntil_stop (first.noting_eq noted)
    · obtain ⟨late, s₂, second⟩ :=
        rest (fun u hu => ih u (List.mem_cons_of_mem t hu)) (n + t.leaves.length) s₁
      -- Glued together behind the first operand, the two assignments serve for all operands.
      have agree_first := glue_of_mem_number early late n t
      have agree_rest := glue_of_mem_numberAll early late (n + t.leaves.length) ts
      rw [value_congr agree_first,
        visitsIn_congr (List.forall_mem_singleton.mpr agree_first)] at first
      rw [value_congr agree_first] at decided
      rw [List.map_congr_left fun u hu => value_congr (agree_rest u hu),
        upTo_congr fun u hu => by rw [value_congr (agree_rest u hu)],
        visitsIn_congr fun u hu => agree_rest u ((upTo_sublist _ _).subset hu)] at second
      refine ⟨glue (n + t.leaves.length) early late, s₂, ?_, fun noted => ?_⟩ <;>
        simp only [numberAll, List.map_cons, List.foldr_cons, upTo, decided, decide_false,
          Bool.false_eq_true, if_false]
      · exact evaluateUntil_next first.plain_eq decided second.plain_eq
      · rw [visitsIn_cons, ← List.append_assoc]
        exact evaluateUntil_next (first.noting_eq noted) decided (second.noting_eq _)

/-- From any state, evaluation gives the value of the tree and asks for its visited leaves, under
the answers that the leaves get on the way. -/
theorem notes_evaluate (t : Tree α) : ∀ n s, ∃ (answer : Nat → Truth) (s' : σ),
    Notes (t.evaluate ask) (t.evaluate (askNoted ask)) s
      ((t.number n).value fun a => answer a.2) s' (visitsIn answer [t.number n]) := by
  induction t with
  | leaf a =>
    intro n s
    exact ⟨fun _ => (ask a s).1, (ask a s).2, rfl, fun noted => rfl⟩
  | node op ts ih =>
    intro n s
    cases op with
    | and =>
      rw [evaluate_and, evaluate_and]
      obtain ⟨answer, s', run⟩ := notes_evaluateUntil ask Truth.no_and ih n s
      refine ⟨answer, s', ?_⟩
      rw [number, value_node, Operator.combine_and]
      simpa [visitsIn, Operator.consulted] using run
    | or =>
      rw [evaluate_or, evaluate_or]
      obtain ⟨answer, s', run⟩ := notes_evaluateUntil ask Truth.yes_or ih n s
      refine ⟨answer, s', ?_⟩
      rw [number, value_node, Operator.combine_or]
      simpa [visitsIn, Operator.consulted] using run
    | not =>
      by_cases sole : ts.length = 1
      · obtain ⟨t, rfl⟩ := List.length_eq_one_iff.mp sole
        obtain ⟨answer, s', run⟩ := ih t List.mem_cons_self n s
        refine ⟨answer, s', evaluate_sole run.plain_eq, fun noted => ?_⟩
        simpa [visitsIn, number, numberAll, Operator.consulted, Operator.combine] using
          evaluate_sole (run.noting_eq noted)
      · -- Nothing is asked for, so any assignment serves.
        have numbered : (numberAll n ts).length ≠ 1 := by rwa [length_numberAll]
        refine ⟨fun _ => .unknown, s, ?_, fun noted => ?_⟩
        · simp [number, evaluate_not sole, Operator.combine_not, numbered]
        · simp [number, visitsIn, evaluate_not sole, Operator.combine_not, Operator.consulted_not,
            numbered]

end Stateful

/-- Evaluation gives the value of a tree and asks for the visited leaves. If the answers are those
of a function, the value and the visited leaves are those under this function. If the answers depend
on a state, they are those under the answers that the occurrences of leaves get; an occurrence is
known by its place in the list of leaves, and the occurrences asked for are a part of this list, in
its order. -/
theorem evaluate_eq_value_and_visited (t : Tree α) :
    (∀ answer : α → Truth,
      t.evaluatePure answer = t.value answer ∧ t.asked answer = t.visited answer) ∧
    ∀ (σ : Type) (ask : α → StateM σ Truth) (s : σ), ∃ answer : Nat → Truth,
      let asked := (t.number 0).visited fun a => answer a.2
      (t.evaluate ask s).1 = (t.number 0).value (fun a => answer a.2) ∧
      t.evaluate (askNoted ask) (s, []) =
        ((t.evaluate ask s).1, (t.evaluate ask s).2, asked.map fun a => (a.1, answer a.2)) ∧
      asked.Sublist t.leaves.zipIdx := by
  refine ⟨fun answer => ⟨evaluatePure_eq_value answer t, asked_eq_visited answer t⟩, ?_⟩
  intro σ ask s
  obtain ⟨answer, s', run⟩ := notes_evaluate ask t 0 s
  refine ⟨answer, ?_, ?_, ?_⟩
  · rw [run.plain_eq]
  · rw [run.noting_eq, run.plain_eq]
    simp [visitsIn]
  · rw [← leaves_number]
    exact visited_sublist _ _

end Targeting.Tree
