import Targeting.Proofs.Tree.RoundTrip

/-!
# The grammar of condition trees

Which trees there are in JSON can be said without reading any. A value that is not a list is a leaf. A list
is a node, with the operator whose word stands in the first place, or an *or* over all items if there is no
such word. At the top a text with an encoded list stands for that list, and an empty list is an *and*.

So there are two things to compare a tree with. One is the shape of the value, which does not depend on what
leaves are; the other one is the list of the values that are in the place of leaves. A value is read as a
tree exactly if the tree has its shape and its leaves are what these values are read as, one after the other.
And it is read as some tree exactly if each of these values is read as a leaf.

## Main definitions

* `Json.leafValues` — the values in the place of leaves, from left to right
* `Json.Parts` — the operator and the operands of a list
* `Json.StandsFor` — what a value stands for at the top
* `Tree.Mirrors`, `Tree.MirrorsAtTop` — trees that have the shape of a value

## Main results

* `Json.Parts.unique`, `Json.Parts.leafValues_eq` — the operands of a list are unique, and its leaf values are
  theirs
* `Tree.Mirrors.length_leafValues` — a tree of the same shape has as many leaves
* `Tree.ofValue?_eq_some_iff`, `Tree.isSome_ofValue?_iff` — when a value inside is read
* `Tree.ofJson?_iff_mirrors` — when a value at the top is read
-/

namespace Targeting

theorem Operator.ofText?_eq_some_iff {word : String} {op : Operator} :
    ofText? word = some op ↔ word = op.text := by
  constructor
  · unfold ofText?
    split <;> rintro ⟨⟩ <;> rfl
  · rintro rfl
    exact ofText?_text op

theorem Operator.text_injective : Function.Injective text := fun op op' same =>
  Option.some.inj <| by rw [← ofText?_text op, same, ofText?_text]

/-! ### Values -/

namespace Json

/-- Induction over values, with all items of a list at hand. -/
theorem items_induction {motive : Json → Prop} (single : ∀ v, v.items? = none → motive v)
    (list : ∀ items, (∀ v ∈ items, motive v) → motive (.arr items)) (v : Json) : motive v :=
  @Json.rec motive (fun items => ∀ v ∈ items, motive v) (fun _ => True) (fun _ => True)
    (single _ rfl) (fun _ => single _ rfl) (fun _ => single _ rfl) (fun _ => single _ rfl) list
    (fun _ _ => single _ rfl) (List.forall_mem_nil _)
    (fun _ _ first others => List.forall_mem_cons.mpr ⟨first, others⟩) trivial
    (fun _ _ _ _ => trivial) (fun _ _ _ => trivial) v

/-- Whether a value is the word for an operator. -/
def isWord : Json → Bool
  | .str word => word ∈ ["and", "or", "not"]
  | _ => false

mutual

/-- The values in the place of leaves, from left to right: those that are not lists, except for the word for
an operator in the first place of a list. -/
def leafValues : Json → List Json
  | .arr items => leafValuesIn items
  | v => [v]

/-- The values in the place of leaves in a list. -/
def leafValuesIn : List Json → List Json
  | [] => []
  | v :: vs => if v.isWord then leafValuesOf vs else leafValues v ++ leafValuesOf vs

/-- The values in the place of leaves in several values, one after another. -/
def leafValuesOf : List Json → List Json
  | [] => []
  | v :: vs => leafValues v ++ leafValuesOf vs

end

/-- The operator of a list and its operands: the word for the operator stands in the first place and the
operands behind it, or there is no such word and the list is an *or* over all its items. -/
inductive Parts : List Json → Operator → List Json → Prop
  | worded (op : Operator) (vs : List Json) : Parts (.str op.text :: vs) op vs
  | unworded {vs : List Json} (none : ∀ (op : Operator) rest, vs ≠ .str op.text :: rest) :
    Parts vs .or vs

/-- What a value stands for at the top: a text that is an encoded list stands for this list, everything else
for itself. -/
inductive StandsFor : Json → Json → Prop
  | text {s : String} {items : List Json} (encoded : read? s = some (.arr items)) :
    StandsFor (.str s) (.arr items)
  | self {v : Json} (plain : ∀ s items, v = .str s → read? s ≠ some (.arr items)) : StandsFor v v

variable {v : Json} {vs : List Json}

theorem isWord_iff : v.isWord = true ↔ ∃ op : Operator, v = .str op.text := by
  constructor
  · intro h
    cases v with
    | str word =>
      obtain rfl | rfl | rfl : word = "and" ∨ word = "or" ∨ word = "not" := by simpa [isWord] using h
      · exact ⟨.and, rfl⟩
      · exact ⟨.or, rfl⟩
      · exact ⟨.not, rfl⟩
    | _ => cases h
  · rintro ⟨op, rfl⟩
    cases op <;> rfl

theorem leafValuesOf_eq_flatMap (vs : List Json) : leafValuesOf vs = vs.flatMap leafValues := by
  induction vs with
  | nil => rfl
  | cons v vs ih => rw [leafValuesOf, List.flatMap_cons, ih]

theorem leafValues_of_items?_eq_none (h : v.items? = none) : v.leafValues = [v] := by
  cases v with
  | arr items => cases h
  | _ => rw [leafValues]; simp

/-- Every list has an operator and operands. -/
theorem exists_parts (vs : List Json) : ∃ op ws, Parts vs op ws := by
  by_cases h : ∃ (op : Operator) (rest : List Json), vs = .str op.text :: rest
  · obtain ⟨op, rest, rfl⟩ := h
    exact ⟨op, rest, .worded op rest⟩
  · exact ⟨.or, vs, .unworded fun op rest same => h ⟨op, rest, same⟩⟩

namespace Parts

variable {ws ws' : List Json} {op op' : Operator}

theorem unique (h : Parts vs op ws) (h' : Parts vs op' ws') : op = op' ∧ ws = ws' := by
  cases h with
  | worded op ws =>
    generalize first : str op.text = v at h'
    cases h' with
    | worded op' ws' => exact ⟨Operator.text_injective (str.inj first), rfl⟩
    | unworded none => exact absurd (congrArg (· :: ws) first.symm) (none op ws)
  | unworded none =>
    cases h' with
    | worded op' ws' => exact absurd rfl (none op' ws')
    | unworded => exact ⟨rfl, rfl⟩

theorem leafValues_eq (h : Parts vs op ws) : (arr vs).leafValues = ws.flatMap leafValues := by
  rw [leafValues]
  cases h with
  | worded op ws => rw [leafValuesIn, if_pos (isWord_iff.mpr ⟨op, rfl⟩), leafValuesOf_eq_flatMap]
  | unworded none =>
    cases vs with
    | nil => rfl
    | cons v vs =>
      have other : ¬ v.isWord = true := fun word => by
        obtain ⟨op, rfl⟩ := isWord_iff.mp word
        exact none op vs rfl
      rw [leafValuesIn, if_neg other, leafValuesOf_eq_flatMap, List.flatMap_cons]

theorem subset (h : Parts vs op ws) : ws ⊆ vs := by
  cases h with
  | worded op ws => exact List.subset_cons_self _ ws
  | unworded => exact .refl vs

end Parts

end Json

namespace Tree

open Json (leafValues Parts StandsFor)

variable {α : Type} {read : Json → Option α} {v w : Json} {vs ws : List Json} {op op' : Operator}
  {t : Tree α} {ts : List (Tree α)}

/-! ### Shapes -/

/-- A tree has the shape of a value: its leaves are the values that are not lists, and its nodes the lists,
each with the operator of the list and one operand for each operand of the list. -/
inductive Mirrors : Json → Tree α → Prop
  | leaf {v : Json} (single : v.items? = none) (a : α) : Mirrors v (leaf a)
  | node {vs ws : List Json} {op : Operator} (parts : Parts vs op ws) {ts : List (Tree α)}
    (operands : List.Forall₂ Mirrors ws ts) : Mirrors (.arr vs) (node op ts)

/-- A tree has the shape of a value at the top, where an empty list is an *and*. -/
def MirrorsAtTop (v : Json) (t : Tree α) : Prop :=
  (v = .arr [] → t = node .and []) ∧ (v ≠ .arr [] → Mirrors v t)

theorem mirrors_leaf_iff {a : α} : Mirrors v (leaf a) ↔ v.items? = none :=
  ⟨fun | .leaf single _ => single, fun single => .leaf single a⟩

theorem mirrors_node_iff (parts : Parts vs op ws) :
    Mirrors (.arr vs) (node op' ts) ↔ op = op' ∧ List.Forall₂ Mirrors ws ts := by
  constructor
  · rintro (_ | ⟨parts', operands⟩)
    obtain ⟨rfl, rfl⟩ := parts.unique parts'
    exact ⟨rfl, operands⟩
  · rintro ⟨rfl, operands⟩
    exact .node parts operands

/-- A tree of the same shape has as many leaves as the value has leaf values. -/
theorem Mirrors.length_leafValues (h : Mirrors v t) : v.leafValues.length = t.leaves.length := by
  induction t generalizing v with
  | leaf a => rw [Json.leafValues_of_items?_eq_none (mirrors_leaf_iff.mp h)]; rfl
  | node op ts ih =>
    obtain _ | ⟨parts, operands⟩ := h
    rw [parts.leafValues_eq, leaves_node]
    clear parts
    induction operands with
    | nil => rfl
    | cons first _ rest =>
      rw [List.flatMap_cons, List.flatMap_cons, List.length_append, List.length_append,
        ih _ List.mem_cons_self first, rest fun u member => ih u (List.mem_cons_of_mem _ member)]

/-! ### Reading -/

theorem operator?_eq_some_iff : operator? v = some op ↔ v = .str op.text := by
  cases v <;> simp [operator?, Operator.ofText?_eq_some_iff]

theorem ofItems?_eq (parts : Parts vs op ws) :
    ofItems? read vs = (ofOperands? read ws).map (node op) := by
  cases parts with
  | worded op ws => exact ofItems?_operator op
  | unworded none =>
    cases vs with
    | nil => rfl
    | cons v vs =>
      have other : operator? v = .none := Option.eq_none_iff_forall_ne_some.mpr fun op same =>
        none op vs (congrArg (· :: vs) (operator?_eq_some_iff.mp same))
      rw [ofItems?, ofOperands?, other]
      simp

/-- Several values are read as trees of their shapes if each of them is; the leaf values of all are read
together, since trees of the same shapes tell how many belong to each. -/
theorem ofOperands?_iff (each : ∀ t ∈ ts, ∀ w, ofValue? read w = some t ↔
      Mirrors w t ∧ w.leafValues.map read = t.leaves.map some) :
    ofOperands? read ws = some ts ↔
      List.Forall₂ Mirrors ws ts ∧ (ws.flatMap leafValues).map read = (ts.flatMap leaves).map some := by
  rw [ofOperands?_eq_some_iff]
  induction ts generalizing ws with
  | nil =>
    rw [List.forall₂_nil_right_iff, List.forall₂_nil_right_iff, iff_self_and]
    rintro rfl
    rfl
  | cons t ts ih =>
    cases ws with
    | nil => simp
    | cons w ws =>
      rw [List.forall₂_cons, List.forall₂_cons, each t List.mem_cons_self,
        ih fun u member => each u (List.mem_cons_of_mem t member), List.flatMap_cons,
        List.flatMap_cons, List.map_append, List.map_append]
      constructor
      · rintro ⟨⟨shape, same⟩, shapes, rest⟩
        exact ⟨⟨shape, shapes⟩, by rw [same, rest]⟩
      · rintro ⟨⟨shape, shapes⟩, all⟩
        have length : (w.leafValues.map read).length = (t.leaves.map some).length := by
          rw [List.length_map, List.length_map, shape.length_leafValues]
        obtain ⟨same, rest⟩ := List.append_inj all length
        exact ⟨⟨shape, same⟩, shapes, rest⟩

/-- A value inside is read as a tree of its shape, with the leaves that its leaf values are read as. -/
theorem ofValue?_eq_some_iff :
    ofValue? read v = some t ↔ Mirrors v t ∧ v.leafValues.map read = t.leaves.map some := by
  induction t generalizing v with
  | leaf a =>
    rw [mirrors_leaf_iff]
    constructor
    · intro h
      obtain ⟨b, same, single, reading⟩ | ⟨vs, op, ts, -, same, -⟩ := leaf_or_node_of_ofValue? h
      · cases same
        simp [single, Json.leafValues_of_items?_eq_none single, reading]
      · cases same
    · rintro ⟨single, reading⟩
      rw [Json.leafValues_of_items?_eq_none single] at reading
      rw [ofValue?_of_items?_eq_none single, List.head_eq_of_cons_eq reading, Option.map_some]
  | node op ts ih =>
    cases list : v.items? with
    | none =>
      refine iff_of_false (fun h => ?_) fun ⟨shape, _⟩ => by cases shape; cases list
      obtain ⟨a, same, -, -⟩ | ⟨vs, op, ts, rfl, -, -⟩ := leaf_or_node_of_ofValue? h
      · cases same
      · cases list
    | some vs =>
      obtain rfl := Json.eq_arr_of_items? list
      obtain ⟨word, ws, parts⟩ := Json.exists_parts vs
      rw [ofValue?_arr, ofItems?_eq parts, mirrors_node_iff parts, parts.leafValues_eq, leaves_node,
        and_assoc, ← ofOperands?_iff fun t member w => ih t member]
      simp [and_comm]

theorem isSome_ofOperands?_iff :
    (ofOperands? read vs).isSome = true ↔ ∀ v ∈ vs, (ofValue? read v).isSome = true := by
  induction vs with
  | nil => simp [ofOperands?]
  | cons v vs ih =>
    rw [List.forall_mem_cons, ← ih]
    cases first : ofValue? read v <;> cases others : ofOperands? read vs <;>
      simp [ofOperands?, first, others]

/-- A value inside is read as some tree exactly if each of its leaf values is read as a leaf. -/
theorem isSome_ofValue?_iff (v : Json) :
    (ofValue? read v).isSome = true ↔ ∀ w ∈ v.leafValues, (read w).isSome = true := by
  induction v using Json.items_induction with
  | single v single =>
    rw [ofValue?_of_items?_eq_none single, Option.isSome_map,
      Json.leafValues_of_items?_eq_none single, List.forall_mem_singleton]
  | list vs ih =>
    obtain ⟨op, ws, parts⟩ := Json.exists_parts vs
    rw [ofValue?_arr, ofItems?_eq parts, Option.isSome_map, isSome_ofOperands?_iff,
      parts.leafValues_eq, List.forall_mem_flatMap]
    exact forall₂_congr fun w operand => ih w (parts.subset operand)

/-! ### At the top -/

/-- Every value stands for exactly one value. -/
theorem standsFor_iff : StandsFor v w ↔ decoded v = w := by
  constructor
  · rintro (encoded | plain)
    · simp only [decoded, encoded]
    · cases v with
      | str s =>
        rw [decoded_str_eq_self_iff]
        rintro ⟨items, list⟩
        exact plain s items rfl list
      | _ => rfl
  · rintro rfl
    unfold decoded
    split
    · next s =>
      split
      · next encoded => exact .text encoded
      · next plain =>
        refine .self fun t items same encoded => ?_
        cases same
        exact plain items encoded
    · next plain => exact .self fun s items same => absurd same (plain s)

/-- A value stands for another one at the top, which says what it is read as. It is read as some tree exactly
if each of the leaf values is read as a leaf. And it is read as a tree exactly if the tree has the shape of
this value, and its leaves are what the leaf values are read as, one after the other. -/
theorem ofJson?_iff_mirrors (read : Json → Option α) (v : Json) : ∃ w, StandsFor v w ∧
    ((ofJson? read v).isSome = true ↔ ∀ x ∈ w.leafValues, (read x).isSome = true) ∧
    ∀ t, ofJson? read v = some t ↔
      MirrorsAtTop w t ∧ w.leafValues.map read = t.leaves.map some := by
  refine ⟨decoded v, standsFor_iff.mpr rfl, ?_⟩
  by_cases empty : decoded v = .arr []
  · have none : (Json.arr []).leafValues = [] := rfl
    rw [ofJson?, empty, none]
    refine ⟨by simp, fun t => ?_⟩
    constructor
    · rintro ⟨⟩
      exact ⟨⟨fun _ => rfl, fun other => absurd rfl other⟩, rfl⟩
    · rintro ⟨⟨shape, -⟩, -⟩
      rw [shape rfl]
  · rw [ofJson?_eq_ofValue? empty]
    refine ⟨isSome_ofValue?_iff _, fun t => ?_⟩
    simp [ofValue?_eq_some_iff, MirrorsAtTop, empty]

/-- Two lists in a negation: one of them begins with a name and has a word for an operator behind it, which is
a name as well, and the other one is empty. -/
theorem ofJson?_iff_mirrors_names :
    let v : Json := .arr [.str "not", .arr [.str "gold", .str "or"], .arr []]
    let t : Tree String := node .not [node .or [leaf "gold", leaf "or"], node .or []]
    Mirrors v t ∧ v.leafValues = [.str "gold", .str "or"] ∧ ofJson? Json.text? v = some t := by
  intro v t
  have names : Parts [.str "gold", .str "or"] .or [.str "gold", .str "or"] :=
    .unworded fun op rest => by cases op <;> simp [Operator.text]
  have shape : Mirrors v t := .node (.worded .not _)
    (.cons (.node names (.cons (.leaf rfl _) (.cons (.leaf rfl _) .nil)))
      (.cons (.node (.unworded (by simp)) .nil) .nil))
  obtain ⟨w, stands, -, reads⟩ := ofJson?_iff_mirrors Json.text? v
  obtain rfl : v = w := standsFor_iff.mp stands
  exact ⟨shape, rfl, (reads t).mpr ⟨⟨by simp [v], fun _ => shape⟩, rfl⟩⟩

end Tree

end Targeting
