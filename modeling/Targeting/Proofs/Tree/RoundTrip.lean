import Mathlib.Data.List.Forall2
import Targeting.Audience.Basic
import Targeting.Proofs.Json.Stored
import Targeting.Proofs.Tree.Value

/-!
# Trees written down and read again

Writing a tree down puts the word for its operator in front of every list, so reading it back never has to
guess an operator, and a leaf that looks like one is safe behind it. What is left to go wrong are the
leaves: each has to be read as itself, and a tree that is nothing but a leaf must not be taken for an
encoded list.

Trees of names and trees of conditions are both measured against this. A name is always read as itself, but
alone it may be an encoded list. A condition is never one, but a number that is not finite is stored as null,
and a value set aside as one of another sort has to be of another sort.

A tree that was read has only leaves that were read from stored values, and so it survives.

## Main definitions

* `Condition.Value.IsPlain` — condition values that survive being stored

## Main results

* `Tree.ofJson?_toJson_iff` — when a written tree is read back
* `Condition.ofJson?_stored_toJson` — what becomes of a condition
* `Tree.leaves_of_ofJson?` — the leaves of a tree that was read
* `Tree.read_back` — when trees of names and of conditions are read back, and that trees which were read are
-/

namespace Targeting

@[simp] theorem Operator.ofText?_text (op : Operator) : ofText? op.text = some op := by
  cases op <;> rfl

theorem Json.eq_arr_of_items? {v : Json} {items : List Json} (h : v.items? = some items) :
    v = .arr items := by
  cases v with
  | arr => exact congrArg arr (Option.some.inj h)
  | _ => cases h

namespace Tree

variable {α : Type} {read : Json → Option α} {write : α → Json} {v : Json} {vs : List Json}
  {t : Tree α} {ts : List (Tree α)}

/-! ### Reading -/

theorem ofValue?_of_items?_eq_none (h : v.items? = none) : ofValue? read v = (read v).map leaf := by
  cases v with
  | arr items => cases h
  | _ => rw [ofValue?]; simp

theorem ofValue?_arr : ofValue? read (.arr vs) = ofItems? read vs := by rw [ofValue?]

theorem ofOperands?_eq_some_iff :
    ofOperands? read vs = some ts ↔ List.Forall₂ (fun v t => ofValue? read v = some t) vs ts := by
  induction vs generalizing ts with
  | nil => simp [ofOperands?, eq_comm]
  | cons v vs ih =>
    simp only [ofOperands?, List.forall₂_cons_left_iff, ← ih, Option.bind_eq_bind,
      Option.bind_eq_some_iff, Option.pure_def, Option.some.injEq]
    grind

theorem ofItems?_operator (op : Operator) :
    ofItems? read (.str op.text :: vs) = (ofOperands? read vs).map (node op) := by
  simp [ofItems?, operator?]

theorem exists_of_mem_ofOperands? (h : ofOperands? read vs = some ts) :
    ∀ t ∈ ts, ∃ v ∈ vs, ofValue? read v = some t := by
  induction ofOperands?_eq_some_iff.mp h with
  | nil => exact fun t member => absurd member List.not_mem_nil
  | @cons v t vs ts first others ih =>
    refine List.forall_mem_cons.mpr ⟨⟨v, List.mem_cons_self, first⟩, fun u later => ?_⟩
    obtain ⟨w, member, reading⟩ := ih (ofOperands?_eq_some_iff.mpr others) u later
    exact ⟨w, List.mem_cons_of_mem v member, reading⟩

/-- The items of a list are read as a node over trees that some of the items are read as. -/
theorem node_of_ofItems? (h : ofItems? read vs = some t) :
    ∃ op ts, t = node op ts ∧ ∀ u ∈ ts, ∃ w ∈ vs, ofValue? read w = some u := by
  cases vs with
  | nil =>
    rw [ofItems?] at h
    exact ⟨.or, [], (Option.some.inj h).symm, fun u member => absurd member List.not_mem_nil⟩
  | cons v vs =>
    rw [ofItems?] at h
    split at h
    · next op _ =>
      obtain ⟨ts, operands, rfl⟩ := Option.map_eq_some_iff.mp h
      refine ⟨op, ts, rfl, fun u member => ?_⟩
      obtain ⟨w, item, reading⟩ := exists_of_mem_ofOperands? operands u member
      exact ⟨w, List.mem_cons_of_mem v item, reading⟩
    · obtain ⟨t, first, h⟩ := Option.bind_eq_some_iff.mp h
      obtain ⟨ts, others, h⟩ := Option.bind_eq_some_iff.mp h
      have all : ofOperands? read (v :: vs) = some (t :: ts) := by
        simp [ofOperands?, first, others]
      exact ⟨.or, t :: ts, (Option.some.inj h).symm, exists_of_mem_ofOperands? all⟩

/-! ### Writing -/

theorem operandsToJson_eq_map (write : α → Json) (ts : List (Tree α)) :
    operandsToJson write ts = ts.map (toJson write) := by
  induction ts with
  | nil => rfl
  | cons t ts ih => rw [operandsToJson, List.map_cons, ih]

@[simp] theorem toJson_leaf (write : α → Json) (a : α) : (leaf a).toJson write = write a := by
  rw [toJson]

@[simp] theorem toJson_node (write : α → Json) (op : Operator) (ts : List (Tree α)) :
    (node op ts).toJson write = .arr (.str op.text :: ts.map (toJson write)) := by
  rw [toJson, operandsToJson_eq_map]

/-- A tree is stored by storing its leaves. -/
theorem stored_toJson (write : α → Json) (t : Tree α) :
    (t.toJson write).stored = t.toJson fun a => (write a).stored := by
  induction t with
  | leaf a => simp
  | node op ts ih =>
    have operands : (ts.map (toJson write)).map Json.stored =
        ts.map (toJson fun a => (write a).stored) := by
      rw [List.map_map]
      exact List.map_inj_left.mpr ih
    rw [toJson_node, toJson_node, Json.stored_arr, List.map_cons, Json.stored_str, operands]

/-! ### Reading back -/

/-- Inside a list, a written tree is read back exactly if each of its leaves is. -/
theorem ofValue?_toJson_iff (single : ∀ a, (write a).items? = none) (t : Tree α) :
    ofValue? read (t.toJson write) = some t ↔ ∀ a ∈ t.leaves, read (write a) = some a := by
  induction t with
  | leaf a => simp [ofValue?_of_items?_eq_none (single a), leaves]
  | node op ts ih =>
    have each : ofOperands? read (ts.map (toJson write)) = some ts ↔
        ∀ t ∈ ts, ofValue? read (t.toJson write) = some t := by
      rw [ofOperands?_eq_some_iff, List.forall₂_map_left_iff, List.forall₂_same]
    have kept : (ofOperands? read (ts.map (toJson write))).map (node op) = some (node op ts) ↔
        ofOperands? read (ts.map (toJson write)) = some ts := by simp
    rw [toJson_node, ofValue?_arr, ofItems?_operator, kept, each, leaves_node]
    constructor
    · intro h a member
      obtain ⟨t, operand, inside⟩ := List.mem_flatMap.mp member
      exact (ih t operand).mp (h t operand) a inside
    · intro h t operand
      exact (ih t operand).mpr fun a inside => h a (List.mem_flatMap.mpr ⟨t, operand, inside⟩)

theorem decoded_eq_self_or (v : Json) : decoded v = v ∨ ∃ items, decoded v = .arr items := by
  unfold decoded
  grind

theorem decoded_str_eq_self_iff (s : String) :
    decoded (.str s) = .str s ↔ ¬ ∃ items, Json.read? s = some (.arr items) := by
  unfold decoded
  grind

theorem stored_decoded (h : v.stored = v) : (decoded v).stored = decoded v := by
  unfold decoded
  split
  · split
    · next encoded => exact Json.stored_of_read? encoded
    · exact h
  · exact h

theorem ofJson?_eq_ofValue? (h : decoded v ≠ .arr []) : ofJson? read v = ofValue? read (decoded v) := by
  rw [ofJson?]
  split
  · next empty => exact absurd empty h
  · rfl

/-- A list is read as a node at the top, too. -/
theorem node_of_ofJson? (list : decoded v = .arr vs) (h : ofJson? read v = some t) :
    ∃ op ts, t = node op ts := by
  cases vs with
  | nil =>
    rw [ofJson?, list] at h
    exact ⟨.and, [], (Option.some.inj h).symm⟩
  | cons first vs =>
    rw [ofJson?_eq_ofValue? (by simp [list]), list, ofValue?_arr] at h
    obtain ⟨op, ts, rfl, -⟩ := node_of_ofItems? h
    exact ⟨op, ts, rfl⟩

theorem ofJson?_of_decoded_eq_self (same : decoded v = v) (h : v.items? = none) :
    ofJson? read v = (read v).map leaf := by
  have nonempty : decoded v ≠ .arr [] := fun empty => by rw [← same, empty] at h; cases h
  rw [ofJson?_eq_ofValue? nonempty, same, ofValue?_of_items?_eq_none h]

/-- A written tree is read back exactly if each of its leaves is, and it is not a sole leaf that is an
encoded list. -/
theorem ofJson?_toJson_iff (single : ∀ a, (write a).items? = none) (t : Tree α) :
    ofJson? read (t.toJson write) = some t ↔
      (∀ a ∈ t.leaves, read (write a) = some a) ∧ ∀ a, t = leaf a → decoded (write a) = write a := by
  cases t with
  | leaf a =>
    have sole : (∀ b ∈ (leaf a).leaves, read (write b) = some b) ↔ read (write a) = some a :=
      List.forall_mem_singleton
    rw [toJson_leaf, sole]
    rcases decoded_eq_self_or (write a) with same | ⟨items, list⟩
    · simp [ofJson?_of_decoded_eq_self same (single a), same]
    · constructor
      · intro h
        obtain ⟨op, ts, same⟩ := node_of_ofJson? list h
        cases same
      · rintro ⟨-, same⟩
        have := single a
        rw [← same a rfl, list] at this
        cases this
  | node op ts =>
    have nonempty : decoded ((node op ts).toJson write) ≠ .arr [] := by simp [decoded]
    have kept : decoded ((node op ts).toJson write) = (node op ts).toJson write := by simp [decoded]
    rw [ofJson?_eq_ofValue? nonempty, kept, ofValue?_toJson_iff single]
    simp

/-! ### Leaves of a tree that was read -/

/-- A leaf was read from a value that is not a list, and a node from a list. -/
theorem leaf_or_node_of_ofValue? (h : ofValue? read v = some t) :
    (∃ a, t = leaf a ∧ v.items? = none ∧ read v = some a) ∨
      ∃ vs op ts, v = .arr vs ∧ t = node op ts ∧ ∀ u ∈ ts, ∃ w ∈ vs, ofValue? read w = some u := by
  cases list : v.items? with
  | none =>
    rw [ofValue?_of_items?_eq_none list] at h
    obtain ⟨a, leaf, rfl⟩ := Option.map_eq_some_iff.mp h
    exact .inl ⟨a, rfl, rfl, leaf⟩
  | some vs =>
    obtain rfl := Json.eq_arr_of_items? list
    rw [ofValue?_arr] at h
    obtain ⟨op, ts, node, each⟩ := node_of_ofItems? h
    exact .inr ⟨vs, op, ts, rfl, node, each⟩

/-- The leaves of a tree that a stored value is read as were read from stored values that are not lists. -/
theorem leaves_of_ofValue? (stored : v.stored = v) (h : ofValue? read v = some t) :
    ∀ a ∈ t.leaves, ∃ w : Json, w.stored = w ∧ w.items? = none ∧ read w = some a := by
  induction t generalizing v with
  | leaf a =>
    obtain ⟨b, same, single, reading⟩ | ⟨vs, op, ts, -, node, -⟩ := leaf_or_node_of_ofValue? h
    · cases same
      exact List.forall_mem_singleton.mpr ⟨v, stored, single, reading⟩
    · cases node
  | node op ts ih =>
    obtain ⟨b, leaf, -, -⟩ | ⟨vs, op', ts', rfl, same, each⟩ := leaf_or_node_of_ofValue? h
    · cases leaf
    · cases same
      intro a member
      obtain ⟨t, operand, inside⟩ := List.mem_flatMap.mp (leaves_node op ts ▸ member)
      obtain ⟨w, item, reading⟩ := each t operand
      exact ih t operand (Json.stored_arr_eq_iff.mp stored w item) reading a inside

theorem leaves_of_ofJson? (stored : v.stored = v) (h : ofJson? read v = some t) :
    ∀ a ∈ t.leaves, ∃ w : Json, w.stored = w ∧ w.items? = none ∧ read w = some a := by
  by_cases empty : decoded v = .arr []
  · rw [ofJson?, empty] at h
    cases h
    exact fun a member => absurd member List.not_mem_nil
  · rw [ofJson?_eq_ofValue? empty] at h
    exact leaves_of_ofValue? (stored_decoded stored) h

/-- A sole leaf was read from the value as it is. -/
theorem decoded_eq_self_of_leaf {a : α} (h : ofJson? read v = some (leaf a)) :
    decoded v = v ∧ read v = some a := by
  have unlisted : ∀ vs, decoded v ≠ .arr vs := fun vs list => by
    obtain ⟨op, ts, leaf⟩ := node_of_ofJson? list h
    cases leaf
  have same : decoded v = v :=
    (decoded_eq_self_or v).resolve_right fun ⟨items, list⟩ => unlisted items list
  rw [ofJson?_eq_ofValue? (unlisted []), same] at h
  obtain ⟨b, leaf, -, reading⟩ | ⟨vs, op, ts, list, -, -⟩ := leaf_or_node_of_ofValue? h
  · cases leaf
    exact ⟨same, reading⟩
  · exact absurd (same.trans list) (unlisted vs)

end Tree

/-! ### Records of stored values -/

/-- What a stored record holds is stored. -/
theorem Json.stored_of_record? {v w : Json} {names : List String} {slots : Record Json} {name : String}
    (stored : v.stored = v) (h : v.record? names = some slots) (given : slots name = .given w) :
    w.stored = w := by
  cases v with
  | obj fields =>
    cases h
    simp only [Record.ofFields] at given
    split at given
    · next found =>
      cases given
      obtain ⟨before, after, rfl, -⟩ := List.lookup_eq_some_iff.mp found
      exact (Json.stored_obj_eq_iff.mp stored).2 (name, w) (by simp)
    · cases given
  | arr items =>
    simp only [record?, Record.ofItems?] at h
    split at h
    · cases h
      dsimp only at given
      split at given
      · next found =>
        cases given
        obtain ⟨before, after, same, -⟩ := List.lookup_eq_some_iff.mp found
        have member : (name, w) ∈ names.zip items := by simp [same]
        exact Json.stored_arr_eq_iff.mp stored w (List.of_mem_zip member).2
      · cases given
    · cases h
  | _ => cases h

/-! ### Conditions -/

namespace Condition

namespace Value

/-- A condition value that survives being stored: a finite number, a boolean, a text or null, or a value of
another sort, which is a list or an object. -/
def IsPlain : Value → Prop
  | number x => x.isFinite = true
  | other v => v.isScalar = false ∧ v.stored = v
  | _ => True

/-- Exactly the plain values survive being stored. -/
theorem ofJson_stored_toJson_iff (value : Value) :
    ofJson value.toJson.stored = value ↔ value.IsPlain := by
  cases value with
  | boolean b => simp [toJson, ofJson, IsPlain]
  | text s => simp [toJson, ofJson, IsPlain]
  | null => simp [toJson, ofJson, IsPlain]
  | number x =>
    rw [toJson, Json.float, Json.stored_num]
    by_cases finite : x.isFinite = true <;>
      simp [Number.fits, finite, ofJson, IsPlain, Number.size]
  | other v =>
    rw [toJson, IsPlain]
    cases v with
    | num n => by_cases fits : n.fits = true <;> simp [fits, ofJson, Json.isScalar]
    | _ => simp [ofJson, Json.isScalar]

/-- A value that is read from a stored one is plain. -/
theorem isPlain_ofJson {v : Json} (stored : v.stored = v) : (ofJson v).IsPlain := by
  cases v with
  | num n =>
    rw [Json.stored_num] at stored
    split at stored
    · next fits => exact Number.isFinite_size fits
    · cases stored
  | arr items => exact ⟨rfl, stored⟩
  | obj fields => exact ⟨rfl, stored⟩
  | _ => trivial

end Value

theorem items?_stored_toJson (c : Condition) : c.toJson.stored.items? = none := by
  rw [toJson, Json.stored_obj]
  rfl

/-- A stored condition lists its fields in the order of their names. -/
theorem stored_toJson (c : Condition) :
    c.toJson.stored = .obj ((match c.operator with
      | some operator => [("match", .str operator)]
      | none => []) ++
        [("name", .str c.name), ("type", .str c.kind), ("value", c.value.toJson.stored)]) := by
  cases operator : c.operator <;>
    simp only [toJson, operator, Json.stored_obj, Json.stored_str, Json.sortFields, Json.insertField,
      List.map_cons, List.map_nil, List.cons_append, List.nil_append, List.foldl_cons, List.foldl_nil,
      String.reduceLT, String.reduceEq, reduceIte]

/-- A condition that was stored is read as itself, up to its value. -/
theorem ofJson?_stored_toJson (c : Condition) :
    ofJson? c.toJson.stored = some { c with value := Value.ofJson c.value.toJson.stored } := by
  rw [stored_toJson]
  cases c.operator <;>
    simp [ofJson?, Json.record?, Record.ofFields, List.lookup_cons, Slot.orElse, Slot.required, Json.nullable,
      Json.text?]

/-- Exactly the conditions with plain values are read as themselves. -/
theorem ofJson?_stored_toJson_iff (c : Condition) :
    ofJson? c.toJson.stored = some c ↔ c.value.IsPlain := by
  rw [ofJson?_stored_toJson, ← Value.ofJson_stored_toJson_iff]
  cases c
  simp

/-- A condition that is read from a stored value has a plain value. -/
theorem isPlain_of_ofJson? {v : Json} {c : Condition} (stored : v.stored = v) (h : ofJson? v = some c) :
    c.value.IsPlain := by
  obtain ⟨slots, record, h⟩ := Option.bind_eq_some_iff.mp h
  obtain ⟨name, -, h⟩ := Option.bind_eq_some_iff.mp h
  obtain ⟨kind, -, h⟩ := Option.bind_eq_some_iff.mp h
  obtain ⟨operator, -, h⟩ := Option.bind_eq_some_iff.mp h
  obtain ⟨value, slot, h⟩ := Option.bind_eq_some_iff.mp h
  cases h
  cases given : slots "value" with
  | given w =>
    rw [given] at slot
    cases slot
    exact Value.isPlain_ofJson (Json.stored_of_record? stored record given)
  | omitted =>
    rw [given] at slot
    cases slot
    trivial
  | cutOff =>
    rw [given] at slot
    cases slot
    trivial

end Condition

/-! ### Trees of names and trees of conditions -/

namespace Tree

theorem ofTargeting?_toJson_iff (t : Tree String) :
    ofTargeting? (t.toJson .str).stored = some t ↔
      ¬ ∃ s items, t = leaf s ∧ Json.read? s = some (.arr items) := by
  have written : (t.toJson .str).stored = t.toJson .str := by simp [stored_toJson]
  rw [ofTargeting?, written, ofJson?_toJson_iff fun _ => rfl]
  simp only [Json.text?, implies_true, true_and, decoded_str_eq_self_iff]
  grind

theorem conditions?_toJson_iff (t : Tree Condition) :
    Audience.conditions? (t.toJson Condition.toJson).stored = some t ↔
      ∀ c ∈ t.leaves, c.value.IsPlain := by
  have alone (c : Condition) : decoded c.toJson.stored = c.toJson.stored := by
    rw [Condition.stored_toJson, decoded]
    simp
  rw [Audience.conditions?, stored_toJson, ofJson?_toJson_iff Condition.items?_stored_toJson]
  simp only [Condition.ofJson?_stored_toJson_iff, alone, implies_true, and_true]

/-- A stored tree of names is read back exactly if it is not a sole name that is an encoded list. A stored
tree of conditions is read back exactly if the values of its conditions are plain. So a tree of either sort
that was read from a stored value is read back. -/
theorem read_back :
    (∀ t : Tree String, ofTargeting? (t.toJson .str).stored = some t ↔
      ¬ ∃ s items, t = leaf s ∧ Json.read? s = some (.arr items)) ∧
    (∀ t : Tree Condition, Audience.conditions? (t.toJson Condition.toJson).stored = some t ↔
      ∀ c ∈ t.leaves, c.value.IsPlain) ∧
    ∀ v : Json, v.stored = v →
      (∀ t, ofTargeting? v = some t → ofTargeting? (t.toJson .str).stored = some t) ∧
      ∀ t, Audience.conditions? v = some t →
        Audience.conditions? (t.toJson Condition.toJson).stored = some t := by
  refine ⟨ofTargeting?_toJson_iff, conditions?_toJson_iff, fun v stored => ⟨fun t h => ?_, fun t h => ?_⟩⟩
  · rw [ofTargeting?_toJson_iff]
    rintro ⟨s, items, rfl, encoded⟩
    obtain ⟨same, reading⟩ := decoded_eq_self_of_leaf h
    cases v with
    | str s' =>
      cases reading
      exact (decoded_str_eq_self_iff s).mp same ⟨items, encoded⟩
    | _ => cases reading
  · rw [conditions?_toJson_iff]
    intro c member
    obtain ⟨w, stored, -, reading⟩ := leaves_of_ofJson? stored h c member
    exact Condition.isPlain_of_ofJson? stored reading

/-- A list without an operator, with a word for an operator among its names, an empty list and a negation
of two names. -/
theorem read_back_words :
    let v : Json := .arr [.str "x", .str "and", .arr [], .arr [.str "not", .str "y", .str "z"]]
    let t : Tree String := node .or [leaf "x", leaf "and", node .or [], node .not [leaf "y", leaf "z"]]
    v.stored = v ∧ ofTargeting? v = some t ∧ ofTargeting? (t.toJson .str).stored = some t := by
  intro v t
  have stored : v.stored = v := by simp [v]
  have reading : ofTargeting? v = some t := by
    simp [v, t, ofTargeting?, ofJson?, decoded, ofValue?, ofItems?, ofOperands?, operator?,
      Operator.ofText?, Json.text?]
  exact ⟨stored, reading, (read_back.2.2 v stored).1 t reading⟩

end Tree

end Targeting
