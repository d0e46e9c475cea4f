import Mathlib.Data.String.Basic
import Targeting.Json.Reader
import Targeting.Proofs.Binary64.Range

/-!
# Values as they are stored

A value that is stored lists the fields of each object in the order of their names, each once, and its
numbers are whole numbers of sixty-four bits or finite binary64 numbers. A value that is only written down
need not be like this: a record lists its fields in the order of its own, and a number may be infinite.
Storing such a value sorts the fields and leaves null in the place of a number that does not fit. A *stored
value* is one that storing leaves as it is.

Every value that is read is a stored one. This is where the reader's arithmetic matters: the powers of ten
that a decimal number is divided by are too great to let the quotient get out of reach.

## Main definitions

* `Number.fits`, `Json.stored` — the numbers that can be stored, and a value as it is stored
* `Json.InOrder` — fields in the order of their names, each once
* `Raw.Fits` — raw values all of whose numbers can be stored

## Main results

* `Json.stored_arr_eq_iff`, `Json.stored_obj_eq_iff` — stored lists and objects
* `NumberText.fits_of_value?` — numbers that are read can be stored
* `Json.stored_of_read?` — every value that is read is stored
-/

namespace Targeting

/-! ### Storing -/

/-- Whether a number can be stored: it is a whole number of sixty-four bits, or finite. -/
def Number.fits : Number → Bool
  | int n => -(Nat.pow 2 63 : Int) ≤ n && n < (Nat.pow 2 64 : Int)
  | float x => x.isFinite

theorem Number.isFinite_size {n : Number} (h : n.fits = true) : n.size.isFinite = true := by
  cases n with
  | int n =>
    obtain ⟨least, greatest⟩ := (Bool.and_eq_true _ _).mp h
    have least := of_decide_eq_true least
    have greatest := of_decide_eq_true greatest
    refine Binary64.isFinite_ofInt ?_
    simp only [Nat.pow_eq] at least greatest
    omega
  | float x => exact h

namespace Json

mutual

/-- A value as it is stored. -/
def stored : Json → Json
  | .num n => if n.fits then .num n else .null
  | .arr items => .arr (storedItems items)
  | .obj fields => .obj (sortFields (storedFields fields))
  | v => v

/-- The items of a list as they are stored. -/
def storedItems : List Json → List Json
  | [] => []
  | v :: vs => stored v :: storedItems vs

/-- The fields of an object with their values as they are stored. -/
def storedFields : List (String × Json) → List (String × Json)
  | [] => []
  | (name, v) :: fields => (name, stored v) :: storedFields fields

end

variable {fields : List (String × Json)} {items : List Json} {name : String} {v : Json}

theorem storedItems_eq_map (items : List Json) : storedItems items = items.map stored := by
  induction items with
  | nil => rfl
  | cons v vs ih => rw [storedItems, List.map_cons, ih]

theorem storedFields_eq_map (fields : List (String × Json)) :
    storedFields fields = fields.map fun field => (field.1, field.2.stored) := by
  induction fields with
  | nil => rfl
  | cons field fields ih => rw [storedFields, List.map_cons, ih]

@[simp] theorem stored_null : null.stored = null := by rw [stored] <;> simp

@[simp] theorem stored_bool (b : Bool) : (bool b).stored = bool b := by rw [stored] <;> simp

@[simp] theorem stored_str (s : String) : (str s).stored = str s := by rw [stored] <;> simp

@[simp] theorem stored_num (n : Number) : (num n).stored = if n.fits then num n else null := by
  rw [stored]

@[simp] theorem stored_arr (items : List Json) : (arr items).stored = arr (items.map stored) := by
  rw [stored, storedItems_eq_map]

@[simp] theorem stored_obj (fields : List (String × Json)) :
    (obj fields).stored = obj (sortFields (fields.map fun field => (field.1, field.2.stored))) := by
  rw [stored, storedFields_eq_map]

/-! ### Fields in order -/

/-- Fields in the order of their names, each once. -/
def InOrder (fields : List (String × Json)) : Prop := fields.Pairwise fun f g => f.1 < g.1

theorem mem_of_mem_insertField {field : String × Json}
    (h : field ∈ insertField name v fields) : field = (name, v) ∨ field ∈ fields := by
  induction fields with
  | nil => exact .inl (List.mem_singleton.mp h)
  | cons first fields ih =>
    rw [insertField] at h
    split at h
    · exact List.mem_cons.mp h
    · split at h
      · exact (List.mem_cons.mp h).imp_right (List.mem_cons_of_mem first)
      · rcases List.mem_cons.mp h with rfl | later
        · exact .inr List.mem_cons_self
        · exact (ih later).imp_right (List.mem_cons_of_mem first)

theorem InOrder.insertField (h : InOrder fields) (name : String) (v : Json) :
    InOrder (insertField name v fields) := by
  induction fields with
  | nil => exact List.pairwise_singleton _ _
  | cons first fields ih =>
    obtain ⟨least, rest⟩ := List.pairwise_cons.mp h
    rw [Json.insertField]
    split
    · next before =>
      refine List.pairwise_cons.mpr ⟨fun field member => ?_, h⟩
      rcases List.mem_cons.mp member with rfl | later
      · exact before
      · exact before.trans (least field later)
    · next notBefore =>
      split
      · next same => exact List.pairwise_cons.mpr ⟨fun field later => same ▸ least field later, rest⟩
      · next other =>
        refine List.pairwise_cons.mpr ⟨fun field member => ?_, ih rest⟩
        rcases mem_of_mem_insertField member with rfl | later
        · exact lt_of_le_of_ne (not_lt.mp notBefore) (Ne.symm other)
        · exact least field later

theorem insertField_of_last (h : ∀ field ∈ fields, field.1 < name) :
    insertField name v fields = fields ++ [(name, v)] := by
  induction fields with
  | nil => rfl
  | cons first fields ih =>
    have before := h first List.mem_cons_self
    rw [insertField, if_neg before.asymm, if_neg before.ne',
      ih fun field later => h field (List.mem_cons_of_mem first later), List.cons_append]

theorem inOrder_sortFields (fields : List (String × Json)) : InOrder (sortFields fields) := by
  suffices ∀ sorted, InOrder sorted →
      InOrder (fields.foldl (fun sorted field => insertField field.1 field.2 sorted) sorted) from
    this [] .nil
  induction fields with
  | nil => exact fun sorted h => h
  | cons field fields ih => exact fun sorted h => ih _ (h.insertField field.1 field.2)

theorem mem_of_mem_sortFields {field : String × Json} (h : field ∈ sortFields fields) :
    field ∈ fields := by
  suffices ∀ sorted, field ∈ fields.foldl (fun sorted f => insertField f.1 f.2 sorted) sorted →
      field ∈ sorted ∨ field ∈ fields from
    (this [] h).resolve_left List.not_mem_nil
  clear h
  induction fields with
  | nil => exact fun sorted h => .inl h
  | cons first fields ih =>
    intro sorted h
    rcases ih _ h with inserted | later
    · rcases mem_of_mem_insertField inserted with rfl | before
      · exact .inr List.mem_cons_self
      · exact .inl before
    · exact .inr (List.mem_cons_of_mem first later)

theorem sortFields_of_inOrder (h : InOrder fields) : sortFields fields = fields := by
  -- The fields sorted so far are a part of the list, and each further one comes behind them.
  suffices ∀ sorted, InOrder (sorted ++ fields) →
      fields.foldl (fun sorted field => insertField field.1 field.2 sorted) sorted =
        sorted ++ fields from this [] h
  clear h
  induction fields with
  | nil => exact fun sorted _ => (List.append_nil sorted).symm
  | cons field fields ih =>
    intro sorted h
    have last : ∀ f ∈ sorted, f.1 < field.1 := fun f member =>
      (List.pairwise_append.mp h).2.2 f member field List.mem_cons_self
    rw [List.append_cons] at h ⊢
    rw [List.foldl_cons, insertField_of_last last]
    exact ih _ h

theorem stored_arr_eq_iff : (arr items).stored = arr items ↔ ∀ v ∈ items, v.stored = v := by
  rw [stored_arr, arr.injEq]
  exact ⟨fun h v member => List.map_inj_left.mp (h.trans (List.map_id items).symm) v member,
    fun h => (List.map_inj_left.mpr h).trans (List.map_id items)⟩

/-- An object is stored exactly if its fields are in order and hold stored values. -/
theorem stored_obj_eq_iff :
    (obj fields).stored = obj fields ↔ InOrder fields ∧ ∀ f ∈ fields, f.2.stored = f.2 := by
  have kept : InOrder (fields.map fun f => (f.1, f.2.stored)) ↔ InOrder fields := List.pairwise_map
  have same : (fields.map fun f => (f.1, f.2.stored)) = fields ↔ ∀ f ∈ fields, f.2.stored = f.2 := by
    rw [← List.map_id fields, List.map_map, List.map_inj_left]
    simp [Prod.ext_iff]
  rw [stored_obj, obj.injEq]
  constructor
  · intro h
    have order : InOrder fields := h ▸ inOrder_sortFields _
    exact ⟨order, same.mp (sortFields_of_inOrder (kept.mpr order) ▸ h)⟩
  · rintro ⟨order, values⟩
    rw [same.mpr values, sortFields_of_inOrder order]

end Json

/-! ### Numbers that are read -/

namespace NumberText

open Binary64

theorem takeWhole_lt (digits : List Nat) {n : Nat} (h : n < significandLimit) :
    (takeWhole digits n).1 < significandLimit := by
  induction digits generalizing n with
  | nil => exact h
  | cons d digits ih =>
    rw [takeWhole]
    split
    · next room => exact ih room
    · exact h

theorem takeFraction_lt (digits : List Nat) {n : Nat} (h : n < significandLimit) :
    (takeFraction digits n).1 < significandLimit := by
  induction digits generalizing n with
  | nil => exact h
  | cons d digits ih =>
    rw [takeFraction]
    split
    · next room => exact ih room
    · exact h

theorem two_pow_mul_le (j k u : Nat) (h : j ≤ k) : 2 ^ j * u ≤ 2 ^ k * u :=
  Nat.mul_le_mul_right u (Nat.pow_le_pow_right (by decide) h)

theorem unitsInOne_le_powerOfTen (n : Int) : unitsInOne ≤ (powerOfTen n).magnitude :=
  unitsInOne_le_magnitude_ofNat (Nat.pow_pos (by decide))

theorem isFinite_of_scaled? {significand : Nat} (h : significand < significandLimit)
    {exponent : Int} {x : Binary64} (scaled : scaled? significand exponent = some x) :
    x.isFinite = true := by
  have small : significand < 2 ^ 64 := h
  have bound := magnitude_ofNat_lt small
  simp only [scaled?] at scaled
  split at scaled
  · exact Option.some.inj scaled ▸ (by decide)
  split at scaled
  · cases scaled
  split at scaled
  -- A product may be out of reach, and then there is no number.
  · split at scaled
    · next finite => exact Option.some.inj scaled ▸ finite
    · cases scaled
  split at scaled
  · rw [← Option.some.inj scaled]
    exact isFinite_quotient (unitsInOne_le_powerOfTen _)
      (lt_of_lt_of_le bound (two_pow_mul_le (64 + 1) 128 unitsInOne (by decide)))
  split at scaled
  · rw [← Option.some.inj scaled]
    have quotient := magnitude_quotient_lt (unitsInOne_le_powerOfTen greatestPower) bound
    exact isFinite_quotient (unitsInOne_le_powerOfTen _)
      (lt_of_lt_of_le quotient (two_pow_mul_le (64 + 1 + 1) 128 unitsInOne (by decide)))
  · exact Option.some.inj scaled ▸ (by decide)

theorem isFinite_of_float? {t : NumberText} {x : Binary64} (h : t.float? = some x) :
    x.isFinite = true := by
  have small := takeFraction_lt (t.fraction.getD []) (takeWhole_lt t.whole (n := 0) (by decide))
  simp only [float?] at h
  split at h
  · obtain ⟨y, scaled, rfl⟩ := Option.map_eq_some_iff.mp h
    rw [isFinite_negate]
    exact isFinite_of_scaled? small scaled
  · exact isFinite_of_scaled? small h

theorem fits_of_int? {t : NumberText} {n : Int} (h : t.int? = some n) :
    (Number.int n).fits = true := by
  simp only [int?, Nat.pow_eq] at h
  split at h
  · cases h
  simp only [Number.fits, Nat.pow_eq, Bool.and_eq_true, decide_eq_true_eq]
  split at h
  · split at h
    · cases h
      omega
    · cases h
  · split at h
    · cases h
      omega
    · cases h

/-- Every number that is read can be stored. -/
theorem fits_of_value? {t : NumberText} {n : Number} (h : t.value? = some n) : n.fits = true := by
  unfold value? at h
  split at h
  · next whole =>
    cases h
    exact fits_of_int? whole
  · obtain ⟨x, float, rfl⟩ := Option.map_eq_some_iff.mp h
    exact isFinite_of_float? float

end NumberText

/-! ### Values that are read -/

namespace Raw

/-- Raw values all of whose numbers can be stored. -/
inductive Fits : Raw → Prop
  | null : Fits .null
  | bool (b : Bool) : Fits (.bool b)
  | num {n : Option Number} (h : ∀ m, n = some m → m.fits = true) : Fits (.num n)
  | str (s : Option String) : Fits (.str s)
  | arr {items : List Raw} (h : ∀ r ∈ items, Fits r) : Fits (.arr items)
  | obj {fields : List (Option String × Raw)} (h : ∀ f ∈ fields, Fits f.2) : Fits (.obj fields)

section Scan

variable {fuel : Nat} {cs rest : List Char}
  (value : ∀ cs r rest, scanValue? fuel cs = some (r, rest) → r.Fits)
  (items : ∀ cs items rest, scanItems? fuel cs = some (items, rest) → ∀ r ∈ items, Fits r)
  (fields : ∀ cs fields rest, scanFields? fuel cs = some (fields, rest) → ∀ f ∈ fields, Fits f.2)

include items fields in
theorem fits_of_scanValue? {r : Raw} (h : scanValue? (fuel + 1) cs = some (r, rest)) : r.Fits := by
  rw [scanValue?] at h
  split at h
  · cases h
    exact .null
  · cases h
    exact .bool true
  · cases h
    exact .bool false
  · obtain ⟨⟨s, _⟩, -, h⟩ := Option.bind_eq_some_iff.mp h
    cases h
    exact .str s
  · split at h
    · cases h
      exact .arr (by simp)
    · obtain ⟨⟨rs, _⟩, scanned, h⟩ := Option.bind_eq_some_iff.mp h
      cases h
      exact .arr (items _ _ _ scanned)
  · split at h
    · cases h
      exact .obj (by simp)
    · obtain ⟨⟨fs, _⟩, scanned, h⟩ := Option.bind_eq_some_iff.mp h
      cases h
      exact .obj (fields _ _ _ scanned)
  · obtain ⟨⟨n, _⟩, -, h⟩ := Option.bind_eq_some_iff.mp h
    cases h
    exact .num fun m read => NumberText.fits_of_value? read

include value items in
theorem fits_of_scanItems? {rs : List Raw} (h : scanItems? (fuel + 1) cs = some (rs, rest)) :
    ∀ r ∈ rs, Fits r := by
  rw [scanItems?] at h
  obtain ⟨⟨r, _⟩, first, h⟩ := Option.bind_eq_some_iff.mp h
  have head := value _ _ _ first
  dsimp only at h
  split at h
  · cases h
    exact List.forall_mem_singleton.mpr head
  · obtain ⟨⟨more, _⟩, scanned, h⟩ := Option.bind_eq_some_iff.mp h
    cases h
    exact List.forall_mem_cons.mpr ⟨head, items _ _ _ scanned⟩
  · cases h

include value fields in
theorem fits_of_scanFields? {fs : List (Option String × Raw)}
    (h : scanFields? (fuel + 1) cs = some (fs, rest)) : ∀ f ∈ fs, Fits f.2 := by
  rw [scanFields?] at h
  split at h
  · obtain ⟨⟨name, _⟩, -, h⟩ := Option.bind_eq_some_iff.mp h
    dsimp only at h
    split at h
    · obtain ⟨⟨r, _⟩, first, h⟩ := Option.bind_eq_some_iff.mp h
      have head := value _ _ _ first
      dsimp only at h
      split at h
      · cases h
        exact List.forall_mem_singleton.mpr head
      · obtain ⟨⟨more, _⟩, scanned, h⟩ := Option.bind_eq_some_iff.mp h
        cases h
        exact List.forall_mem_cons.mpr ⟨head, fields _ _ _ scanned⟩
      · cases h
    · cases h
  · cases h

end Scan

/-- Whatever is scanned has numbers that can be stored. -/
theorem fits_of_scan (fuel : Nat) :
    (∀ cs r rest, scanValue? fuel cs = some (r, rest) → r.Fits) ∧
    (∀ cs items rest, scanItems? fuel cs = some (items, rest) → ∀ r ∈ items, Fits r) ∧
    ∀ cs fields rest, scanFields? fuel cs = some (fields, rest) → ∀ f ∈ fields, Fits f.2 := by
  induction fuel with
  | zero =>
    refine ⟨?_, ?_, ?_⟩ <;> intro cs _ rest h
    · rw [scanValue?] at h
      cases h
    · rw [scanItems?] at h
      cases h
    · rw [scanFields?] at h
      cases h
  | succ fuel ih =>
    obtain ⟨value, items, fields⟩ := ih
    exact ⟨fun _ _ _ => fits_of_scanValue? items fields, fun _ _ _ => fits_of_scanItems? value items,
      fun _ _ _ => fits_of_scanFields? value fields⟩

theorem fits_of_read? {text : String} {r : Raw} (h : read? text = some r) : r.Fits := by
  obtain ⟨⟨scanned, rest⟩, scan, h⟩ := Option.bind_eq_some_iff.mp h
  dsimp only at h
  split at h
  · cases h
    exact (fits_of_scan _).1 _ _ _ scan
  · cases h

theorem stored_of_values? {depth : Nat} {items : List Raw} {vs : List Json}
    (each : ∀ r ∈ items, ∀ v, r.value? depth = some v → v.stored = v)
    (h : values? depth items = some vs) : ∀ v ∈ vs, v.stored = v := by
  induction items generalizing vs with
  | nil =>
    rw [values?] at h
    cases h
    exact fun v member => absurd member List.not_mem_nil
  | cons r items ih =>
    rw [values?] at h
    obtain ⟨v, first, h⟩ := Option.bind_eq_some_iff.mp h
    obtain ⟨rest, others, h⟩ := Option.bind_eq_some_iff.mp h
    cases h
    obtain ⟨head, tail⟩ := List.forall_mem_cons.mp each
    exact List.forall_mem_cons.mpr ⟨head v first, ih tail others⟩

theorem stored_of_fieldValues? {depth : Nat} {fields : List (Option String × Raw)}
    {fs : List (String × Json)}
    (each : ∀ f ∈ fields, ∀ v, f.2.value? depth = some v → v.stored = v)
    (h : fieldValues? depth fields = some fs) : ∀ f ∈ fs, f.2.stored = f.2 := by
  induction fields generalizing fs with
  | nil =>
    rw [fieldValues?] at h
    cases h
    exact fun f member => absurd member List.not_mem_nil
  | cons field fields ih =>
    rw [fieldValues?] at h
    obtain ⟨name, -, h⟩ := Option.bind_eq_some_iff.mp h
    obtain ⟨v, first, h⟩ := Option.bind_eq_some_iff.mp h
    obtain ⟨rest, others, h⟩ := Option.bind_eq_some_iff.mp h
    cases h
    obtain ⟨head, tail⟩ := List.forall_mem_cons.mp each
    exact List.forall_mem_cons.mpr ⟨head v first, ih tail others⟩

/-- The value of a raw one all of whose numbers can be stored is stored. -/
theorem stored_of_value? {r : Raw} (fits : r.Fits) :
    ∀ (depth : Nat) (v : Json), r.value? depth = some v → v.stored = v := by
  induction fits with
  | null =>
    intro depth v h
    rw [value?] at h
    cases h
    exact Json.stored_null
  | bool b =>
    intro depth v h
    rw [value?] at h
    cases h
    exact Json.stored_bool b
  | num fits =>
    intro depth v h
    rw [value?] at h
    obtain ⟨n, rfl, rfl⟩ := Option.map_eq_some_iff.mp h
    rw [Json.stored_num, if_pos (fits n rfl)]
  | str s =>
    intro depth v h
    rw [value?] at h
    obtain ⟨s, rfl, rfl⟩ := Option.map_eq_some_iff.mp h
    exact Json.stored_str s
  | @arr items _ ih =>
    intro depth v h
    cases depth with
    | zero => rw [value?] at h; cases h
    | succ depth =>
      rw [value?] at h
      obtain ⟨vs, values, rfl⟩ := Option.map_eq_some_iff.mp h
      exact Json.stored_arr_eq_iff.mpr (stored_of_values? (fun r member => ih r member depth) values)
  | @obj fields _ ih =>
    intro depth v h
    cases depth with
    | zero => rw [value?] at h; cases h
    | succ depth =>
      rw [value?] at h
      obtain ⟨fs, values, rfl⟩ := Option.map_eq_some_iff.mp h
      have stored := stored_of_fieldValues? (fun f member => ih f member depth) values
      exact Json.stored_obj_eq_iff.mpr ⟨Json.inOrder_sortFields fs, fun f member =>
        stored f (Json.mem_of_mem_sortFields member)⟩

end Raw

namespace Json

/-- Every value that is read is stored. -/
theorem stored_of_read? {text : String} {v : Json} (h : read? text = some v) : v.stored = v := by
  obtain ⟨raw, scanned, h⟩ := Option.bind_eq_some_iff.mp h
  exact Raw.stored_of_value? (Raw.fits_of_read? scanned) _ v h

end Json

end Targeting
