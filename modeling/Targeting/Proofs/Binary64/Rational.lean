import Mathlib.Algebra.Order.Field.Basic
import Mathlib.Algebra.Order.Field.Rat
import Mathlib.Algebra.Order.Ring.Cast
import Mathlib.Algebra.Order.Ring.Int
import Mathlib.Order.Compare
import Targeting.Proofs.Binary64.Range

/-!
# The rationals that numbers denote

A finite binary64 number is a whole number of units, so it denotes a rational. Finite numbers are compared
as these rationals are, and the safe ones are those whose rationals lie between `-2 ^ 53` and `2 ^ 53`.

## Main definitions

* `Binary64.toRat` — the rational that a finite number denotes

## Main results

* `Binary64.isSafe_iff` — the safe numbers
* `Binary64.compare?_eq_compare_toRat` — the order of finite numbers
-/

namespace Targeting.Binary64

variable {x y : Binary64}

/-- The rational that a finite number denotes. -/
def toRat (x : Binary64) : ℚ := x.units / unitsInOne

theorem unitsInOne_pos_rat : (0 : ℚ) < unitsInOne := Nat.cast_pos.mpr unitsInOne_pos

theorem abs_units (x : Binary64) : |x.units| = x.magnitude := by
  unfold units
  split
  · rw [abs_neg, Nat.abs_cast]
  · rw [Nat.abs_cast]

theorem abs_toRat (x : Binary64) : |x.toRat| = x.magnitude / unitsInOne := by
  rw [toRat, abs_div, Nat.abs_cast, ← Int.cast_abs, abs_units, Int.cast_natCast]

/-- The safe numbers are the finite ones whose rationals lie between `-2 ^ 53` and `2 ^ 53`. -/
theorem isSafe_iff : x.isSafe = true ↔ x.isFinite = true ∧ |x.toRat| ≤ 2 ^ 53 := by
  have scaled : x.magnitude ≤ 2 ^ 53 * unitsInOne ↔ |x.toRat| ≤ 2 ^ 53 := by
    rw [abs_toRat, div_le_iff₀ unitsInOne_pos_rat, ← Nat.cast_le (α := ℚ), Nat.cast_mul, Nat.cast_pow,
      Nat.cast_ofNat]
  rw [← scaled, isSafe, Bool.and_eq_true, decide_eq_true_eq, Nat.pow_eq]

theorem isNaN_of_isFinite (h : x.isFinite = true) : x.isNaN = false := by
  have below : x.pattern < infinityPattern := of_decide_eq_true h
  exact decide_eq_false (Nat.not_lt.mpr below.le)

/-- Finite numbers are compared as the rationals that they denote. -/
theorem compare?_eq_compare_toRat (hx : x.isFinite = true) (hy : y.isFinite = true) :
    x.compare? y = some (compare x.toRat y.toRat) := by
  have scaling : StrictMono fun n : ℤ => (n : ℚ) / unitsInOne := fun m n less =>
    div_lt_div_of_pos_right (Int.cast_lt.mpr less) unitsInOne_pos_rat
  rw [compare?, isNaN_of_isFinite hx, isNaN_of_isFinite hy, Bool.or_self, if_neg Bool.false_ne_true,
    ← cmp_eq_compare, ← cmp_eq_compare, ← scaling.cmp_map_eq]
  rfl

end Targeting.Binary64
