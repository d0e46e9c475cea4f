import Targeting.Tree.Basic
import Targeting.Json.Reader

/-!
# Condition trees in JSON

A list is an operator with its operands. The word for the operator comes first, and a list without
such a word is an *or*. Every value that is not a list is a leaf. At the top an empty list stands
for no conditions at all, and a text that holds an encoded list stands for that list.

## Main definitions

* `Tree.ofJson?` — the tree that a value is
* `Tree.toJson` — the value for a tree
-/

namespace Targeting

namespace Tree

variable {α : Type}

/-- The operator that a value names. -/
def operator? : Json → Option Operator
  | .str word => Operator.ofText? word
  | _ => none

mutual

/-- The tree that a value is, given how to read a leaf. -/
def ofValue? (leaf : Json → Option α) : Json → Option (Tree α)
  | .arr items => ofItems? leaf items
  | v => (leaf v).map .leaf

/-- The tree that the items of a list are. -/
def ofItems? (leaf : Json → Option α) : List Json → Option (Tree α)
  | [] => some (.node .or [])
  | v :: vs =>
    match operator? v with
    | some op => (ofOperands? leaf vs).map (.node op)
    | none => do
      let t ← ofValue? leaf v
      let ts ← ofOperands? leaf vs
      return .node .or (t :: ts)

/-- The trees that several values are. -/
def ofOperands? (leaf : Json → Option α) : List Json → Option (List (Tree α))
  | [] => some []
  | v :: vs => do
    let t ← ofValue? leaf v
    let ts ← ofOperands? leaf vs
    return t :: ts

end

/-- A text that holds an encoded list is that list. -/
def decoded : Json → Json
  | .str s =>
    match Json.read? s with
    | some (.arr items) => .arr items
    | _ => .str s
  | v => v

/-- The tree that a value is at the top, where an empty list asks for nothing. -/
def ofJson? (leaf : Json → Option α) (v : Json) : Option (Tree α) :=
  match decoded v with
  | .arr [] => some (.node .and [])
  | v => ofValue? leaf v

mutual

/-- The value for a tree, given the value for a leaf. -/
def toJson (leaf : α → Json) : Tree α → Json
  | .leaf a => leaf a
  | .node op operands => .arr (.str op.text :: operandsToJson leaf operands)

/-- The values for several trees. -/
def operandsToJson (leaf : α → Json) : List (Tree α) → List Json
  | [] => []
  | t :: ts => toJson leaf t :: operandsToJson leaf ts

end

end Tree

end Targeting
