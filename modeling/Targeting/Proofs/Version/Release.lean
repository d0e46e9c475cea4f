import Targeting.Proofs.Version.Grammar
import Targeting.Proofs.Version.Number

/-!
# Releases as numbers

The text of a release is nothing but numbers with dots between them, and this is how two of them are
compared: from the left, number by number. The first two numbers that differ decide. Where none differ,
the user's release is lower if it has fewer numbers than the condition's, and all that it has beyond them
is left out.

The numbers may have any number of digits, zeros in front included.

## Main definitions

* `Version.IsNumbering`, `Version.releaseText` — the components of a release, and its text
* `Version.placeOfNumbers` — the place of one list of numbers relative to another one

## Main results

* `Version.compareParts_numbers` — components compare as their numbers do
* `Version.order_releaseText` — the place of a release relative to another one is that of their numbers
-/

namespace Targeting.Version

/-- One to three runs of ASCII digits. -/
structure IsNumbering (parts : List (List Char)) : Prop where
  nonempty : parts ≠ []
  few : parts.length ≤ 3
  ascii : ∀ part ∈ parts, isNumeric part = true

instance (parts : List (List Char)) : Decidable (IsNumbering parts) :=
  decidable_of_iff (parts ≠ [] ∧ parts.length ≤ 3 ∧ ∀ part ∈ parts, isNumeric part = true)
    ⟨fun ⟨nonempty, few, ascii⟩ => ⟨nonempty, few, ascii⟩,
      fun h => ⟨h.nonempty, h.few, h.ascii⟩⟩

/-- The text of a release: its components with dots between them. -/
def releaseText (parts : List (List Char)) : String := .ofList (Text.join '.' parts)

/-- The place of a list of numbers relative to the one that is wanted: the first two numbers that differ
decide, and where none differ a shorter list is lower. -/
def placeOfNumbers (wanted actual : List Nat) : Ordering :=
  match (actual.zip wanted).find? fun (a, w) => a != w with
  | some (a, w) => compare a w
  | none => if actual.length < wanted.length then .lt else .eq

/-! ### Lists of numbers -/

section Numbers

variable (w a : Nat) (ws as : List Nat)

theorem placeOfNumbers_nil : placeOfNumbers [] as = .eq := by
  simp [placeOfNumbers]

theorem placeOfNumbers_cons_nil : placeOfNumbers (w :: ws) [] = .lt := by
  simp [placeOfNumbers]

/-- The numbers on the left decide, and what stands behind them only if they are the same. -/
theorem placeOfNumbers_cons_cons :
    placeOfNumbers (w :: ws) (a :: as) = (compare a w).then (placeOfNumbers ws as) := by
  -- A pair of the same numbers is passed over, and any other one is the first that differs.
  by_cases same : a = w
  · have equal : compare a w = .eq := Nat.compare_eq_eq.mpr same
    rw [equal, Ordering.eq_then, placeOfNumbers, placeOfNumbers, List.zip_cons_cons,
      List.find?_cons_of_neg (by simp [same])]
    simp only [List.length_cons, Nat.add_lt_add_iff_right]
  · have different : compare a w ≠ .eq := fun equal => same (Nat.compare_eq_eq.mp equal)
    rw [placeOfNumbers, List.zip_cons_cons, List.find?_cons_of_pos (by simp [same])]
    show compare a w = _
    cases place : compare a w with
    | eq => exact absurd place different
    | lt | gt => rfl

/-- Numbers beyond those that are wanted are left out. -/
theorem placeOfNumbers_take : placeOfNumbers ws (as.take ws.length) = placeOfNumbers ws as := by
  induction ws generalizing as with
  | nil => rw [placeOfNumbers_nil, placeOfNumbers_nil]
  | cons w ws ih =>
    cases as with
    | nil => rfl
    | cons a as =>
      rw [List.length_cons, List.take_succ_cons, placeOfNumbers_cons_cons, ih,
        placeOfNumbers_cons_cons]

end Numbers

/-! ### Releases -/

variable {c u : Version} {wanted actual : List (List Char)}

/-- Components compare as their numbers do. -/
theorem compareParts_numbers (hc : c.stage = .release) (hu : u.stage = .release)
    (hw : ∀ w ∈ wanted, isNumeric w = true) (ha : ∀ a ∈ actual, isNumeric a = true) :
    compareParts c u wanted actual = placeOfNumbers (wanted.map number) (actual.map number) := by
  -- Induction on the condition's components: one release ends here, or both go on.
  induction wanted generalizing actual with
  | nil =>
    rw [compareParts, List.map_nil, placeOfNumbers_nil, not_isPreRelease hu]
    rfl
  | cons w ws ih =>
    cases actual with
    | nil =>
      have unmarked : c.isMarked = false := by simp [isMarked, hc]
      rw [compareParts, unmarked, List.map_cons, List.map_nil, placeOfNumbers_cons_nil]
      rfl
    | cons a as =>
      obtain ⟨first, rest⟩ := List.forall_mem_cons.mp hw
      obtain ⟨given, more⟩ := List.forall_mem_cons.mp ha
      rw [compareParts_cons_cons, comparePart_of_isNumeric c u first given, ih rest more,
        List.map_cons, List.map_cons, placeOfNumbers_cons_cons]

namespace IsNumbering

variable {parts : List (List Char)} (h : IsNumbering parts)
include h

theorem isProper : (⟨parts, .release, []⟩ : Version).IsProper where
  nonempty := h.nonempty
  few := h.few
  digits part hp := isDigitRun_of_isNumeric (h.ascii part hp)
  unbroken := List.forall_mem_nil _
  bare _ := rfl

theorem ofText?_releaseText : ofText? (releaseText parts) = some ⟨parts, .release, []⟩ := by
  have written : text ⟨parts, .release, []⟩ = releaseText parts := by
    simp [text, toChars, Stage.mark, releaseText]
  rw [← written]
  exact ofText?_text h.isProper

/-- At least one of the first components is left. -/
theorem take {n : Nat} (some : n ≠ 0) : IsNumbering (parts.take n) where
  nonempty := by simp [h.nonempty, some]
  few := (List.length_take_le' n parts).trans h.few
  ascii part hp := h.ascii part (List.mem_of_mem_take hp)

end IsNumbering

/-- The place of a user's release relative to a condition's is that of its numbers, however many digits
they have, and it does not depend on the components beyond those of the condition's. -/
theorem order_releaseText (hw : IsNumbering wanted) (ha : IsNumbering actual) :
    order (releaseText wanted) (releaseText actual)
        = .ok (placeOfNumbers (wanted.map number) (actual.map number)) ∧
      order (releaseText wanted) (releaseText (actual.take wanted.length))
        = order (releaseText wanted) (releaseText actual) := by
  -- Both texts are read back as their components, and these compare as their numbers do.
  have place {parts : List (List Char)} (hp : IsNumbering parts) :
      order (releaseText wanted) (releaseText parts)
        = .ok (placeOfNumbers (wanted.map number) (parts.map number)) := by
    rw [order_eq hw.ofText?_releaseText hp.ofText?_releaseText, compareWith,
      parts_of_isRelease hw.isProper rfl, parts_of_isRelease hp.isProper rfl,
      compareParts_numbers rfl rfl hw.ascii hp.ascii]
  have length : wanted.length = (wanted.map number).length := (List.length_map number).symm
  have some : wanted.length ≠ 0 := mt List.length_eq_zero_iff.mp hw.nonempty
  refine ⟨place ha, ?_⟩
  rw [place ha, place (ha.take some), List.map_take, length, placeOfNumbers_take]

/-- Zeros in front do not count, and a number may have more digits than any machine word. -/
theorem order_releaseText_long :
    order "1.007.99999999999999999999" "01.7.100000000000000000000" = .ok .gt :=
  (@order_releaseText ["1".toList, "007".toList, "99999999999999999999".toList]
    ["01".toList, "7".toList, "100000000000000000000".toList] (by decide) (by decide)).1

example : order "2.1" "2" = .ok .lt := by decide

end Targeting.Version
