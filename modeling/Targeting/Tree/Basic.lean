import Targeting.Truth

/-!
# Condition trees

A condition tree combines leaves by *and*, *or* and *not*. What a leaf is does not matter here: an
audience is a tree of conditions, and the targeting of a rule is a tree of audience names.

Evaluation asks for the leaves from left to right and stops early: an *and* at its first no, an *or*
at its first yes. What asking does besides is left open: it may depend on, and change, a state, and it
may break off. So one definition serves for plain answers, for answers with a log, for the list of the
leaves asked for, and for calls that crash.

## Main definitions

* `Tree` — trees of operators over leaves
* `Tree.leaves` — the leaves from left to right
* `Tree.evaluate` — evaluation with early stops
* `Tree.evaluatePure`, `Tree.asked` — the answer under plain leaf answers, and the leaves asked for
-/

namespace Targeting

/-- The operators of a condition tree. -/
inductive Operator where
  | and
  | or
  | not
  deriving DecidableEq

/-- The word for an operator. -/
def Operator.text : Operator → String
  | and => "and"
  | or => "or"
  | not => "not"

/-- The operator that a word names. -/
def Operator.ofText? : String → Option Operator
  | "and" => some and
  | "or" => some or
  | "not" => some not
  | _ => none

/-- A boolean expression over leaves. A negation with any other number of operands than one is
allowed, and its answer is unknown. -/
inductive Tree (α : Type) where
  | leaf (a : α)
  | node (op : Operator) (operands : List (Tree α))

namespace Tree

variable {α : Type}

mutual

/-- The leaves, from left to right. -/
def leaves : Tree α → List α
  | .leaf a => [a]
  | .node _ operands => leavesOf operands

/-- The leaves of several trees, one after another. -/
def leavesOf : List (Tree α) → List α
  | [] => []
  | t :: ts => leaves t ++ leavesOf ts

end

section Evaluation

variable {m : Type → Type} [Monad m]

mutual

/-- The answer of a tree, given how to answer its leaves. -/
def evaluate (ask : α → m Truth) : Tree α → m Truth
  | .leaf a => ask a
  | .node .and operands => evaluateAll ask operands
  | .node .or operands => evaluateAny ask operands
  | .node .not operands => evaluateSole ask operands

/-- The conjunction of several trees; nothing is asked after the first no. -/
def evaluateAll (ask : α → m Truth) : List (Tree α) → m Truth
  | [] => pure .yes
  | t :: ts => do
    let answer ← evaluate ask t
    if answer = .no then pure .no
    else
      let rest ← evaluateAll ask ts
      pure (answer.and rest)

/-- The disjunction of several trees; nothing is asked after the first yes. -/
def evaluateAny (ask : α → m Truth) : List (Tree α) → m Truth
  | [] => pure .no
  | t :: ts => do
    let answer ← evaluate ask t
    if answer = .yes then pure .yes
    else
      let rest ← evaluateAny ask ts
      pure (answer.or rest)

/-- The negation of a sole tree. With none or several nothing is asked, and the answer is
unknown. -/
def evaluateSole (ask : α → m Truth) : List (Tree α) → m Truth
  | [] => pure .unknown
  | t :: ts =>
    if ts.isEmpty then do
      let answer ← evaluate ask t
      pure answer.not
    else pure .unknown

end

end Evaluation

/-- The answer of a tree whose leaves have plain answers. -/
def evaluatePure (answer : α → Truth) (t : Tree α) : Truth :=
  (t.evaluate (fun a => (pure (answer a) : StateM Unit Truth)) ()).1

/-- A leaf is asked for: it is written down and answered. -/
def askRecorded (answer : α → Truth) (a : α) : StateM (List α) Truth := do
  modify (· ++ [a])
  return answer a

/-- The leaves that evaluation asks for, in order. -/
def asked (answer : α → Truth) (t : Tree α) : List α :=
  (t.evaluate (askRecorded answer) []).2

/-- The tree that holds when any of the given leaves does. -/
def anyOf (as : List α) : Tree α := .node .or (as.map .leaf)

end Tree

end Targeting
