import Mathlib.Algebra.Order.Ring.Nat
import Targeting.Binary64.Basic

/-!
# How far rounding reaches

The number nearest to a fraction is finite if the fraction lies well below the first power of two that is
out of reach. No bound here is tight: the numbers that come out of decimal text are far from the edge,
and a full step of rounding is allowed for.

## Main results

* `Binary64.magnitude_lt`, `Binary64.le_magnitude` — magnitudes, as the bits below the sign tell
* `Binary64.isFinite_nearest`, `Binary64.magnitude_nearest_lt` — how great a rounded fraction becomes
* `Binary64.isFinite_ofInt` — whole numbers of sixty-four bits are finite
* `Binary64.isFinite_quotient` — quotients by one or more are finite
-/

namespace Targeting.Binary64

variable {x y : Binary64} {num den n k : Nat}

/-! ### Bits below the sign -/

theorem fractions_pos : 0 < fractions := by decide

theorem pattern_lt_signBit (x : Binary64) : x.pattern < signBit :=
  Nat.mod_lt _ (by decide)

theorem pattern_ofPattern (negative : Bool) (h : n < signBit) :
    (ofPattern negative n).pattern = n := by
  have room : signBit + signBit = UInt64.size := by decide
  have bits {m : Nat} (fits : m < UInt64.size) : (UInt64.ofNat m).toNat = m :=
    UInt64.toNat_ofNat_of_lt fits
  cases negative with
  | false =>
    show (UInt64.ofNat n).toNat % signBit = n
    rw [bits (by omega), Nat.mod_eq_of_lt h]
  | true =>
    show (UInt64.ofNat (n + signBit)).toNat % signBit = n
    rw [bits (by omega), Nat.add_mod_right, Nat.mod_eq_of_lt h]

@[simp] theorem pattern_negate (x : Binary64) : x.negate.pattern = x.pattern :=
  pattern_ofPattern _ x.pattern_lt_signBit

@[simp] theorem isFinite_negate (x : Binary64) : x.negate.isFinite = x.isFinite := by
  rw [isFinite, isFinite, pattern_negate]

/-! ### Magnitudes -/

theorem significand_lt (x : Binary64) : x.significand < 2 * fractions := by
  have rest := Nat.mod_lt x.pattern fractions_pos
  unfold significand
  split <;> omega

theorem magnitude_lt (h : x.pattern ≤ (k + 2) * fractions) : x.magnitude < 2 ^ (k + 54) := by
  have scale : x.scale ≤ k + 1 := by
    have exponent : x.pattern / fractions ≤ k + 2 :=
      Nat.div_le_of_le_mul (by rwa [Nat.mul_comm] at h)
    unfold Binary64.scale
    omega
  calc x.significand * 2 ^ x.scale
      < 2 * fractions * 2 ^ x.scale :=
        Nat.mul_lt_mul_of_pos_right x.significand_lt (Nat.two_pow_pos _)
    _ ≤ 2 ^ 53 * 2 ^ (k + 1) := Nat.mul_le_mul_left _ (Nat.pow_le_pow_right (by decide) scale)
    _ = 2 ^ (k + 54) := by rw [← Nat.pow_add, Nat.add_comm 53]

theorem le_magnitude (h : (k + 1) * fractions ≤ x.pattern) : 2 ^ (k + 52) ≤ x.magnitude := by
  have exponent : k + 1 ≤ x.pattern / fractions := (Nat.le_div_iff_mul_le fractions_pos).mpr h
  have significand : fractions ≤ x.significand := by
    rw [Binary64.significand, if_neg (by omega)]
    exact Nat.le_add_right _ _
  have scale : k ≤ x.scale := by
    unfold Binary64.scale
    omega
  calc 2 ^ (k + 52) = fractions * 2 ^ k := by rw [Nat.add_comm, Nat.pow_add]; rfl
    _ ≤ x.significand * 2 ^ x.scale :=
        Nat.mul_le_mul significand (Nat.pow_le_pow_right (by decide) scale)

/-! ### Rounding -/

theorem le_roundedQuotient (num den : Nat) : num / den ≤ roundedQuotient num den := by
  simp only [roundedQuotient]
  split
  · exact Nat.le_refl _
  · split <;> omega

theorem roundedQuotient_le (num den : Nat) : roundedQuotient num den ≤ num / den + 1 := by
  simp only [roundedQuotient]
  split
  · exact Nat.le_succ _
  · split <;> omega

theorem pattern_nearest (num den : Nat) :
    let inUnits := num * unitsInOne
    let scale := Nat.log2 (inUnits / den) - 52
    (nearest num den).pattern =
      min (scale * fractions + roundedQuotient inUnits (den * 2 ^ scale)) infinityPattern := by
  intro inUnits scale
  exact pattern_ofPattern _ (lt_of_le_of_lt (Nat.min_le_right _ _) (by decide))

/-- The bits count the powers of two up to the fraction, and one more for rounding up. -/
theorem pattern_nearest_le (h : num * unitsInOne / den < 2 ^ (k + 53)) :
    (nearest num den).pattern ≤ (k + 2) * fractions := by
  rw [pattern_nearest]
  refine le_trans (Nat.min_le_left _ _) ?_
  generalize num * unitsInOne = inUnits at h ⊢
  have scale : Nat.log2 (inUnits / den) - 52 ≤ k := by
    by_cases zero : inUnits / den = 0
    · rw [zero]
      exact Nat.zero_le k
    · have := (Nat.log2_lt zero).mpr h
      omega
  have whole : inUnits / den < 2 ^ (53 + (Nat.log2 (inUnits / den) - 52)) :=
    lt_of_lt_of_le Nat.lt_log2_self (Nat.pow_le_pow_right (by decide) (by omega))
  generalize Nat.log2 (inUnits / den) - 52 = s at scale whole ⊢
  have below : inUnits / (den * 2 ^ s) < 2 * fractions := by
    rw [← Nat.div_div_eq_div_mul, Nat.div_lt_iff_lt_mul (Nat.two_pow_pos s)]
    exact lt_of_lt_of_eq whole (Nat.pow_add 2 53 s)
  calc s * fractions + roundedQuotient inUnits (den * 2 ^ s)
      ≤ k * fractions + 2 * fractions :=
        Nat.add_le_add (Nat.mul_le_mul_right _ scale) (le_trans (roundedQuotient_le _ _) below)
    _ = (k + 2) * fractions := (Nat.add_mul k 2 fractions).symm

/-- The exponent is a variable, since the power itself should not be computed on the way. -/
theorem unitsInOne_eq {e : Nat} (size : 1074 = e) : unitsInOne = 2 ^ e := by
  unfold unitsInOne
  rw [size]
  exact Nat.pow_eq

theorem unitsInOne_pos : 0 < unitsInOne := by
  obtain ⟨e, size⟩ : ∃ e, 1074 = e := ⟨_, rfl⟩
  rw [unitsInOne_eq size]
  exact Nat.two_pow_pos e

theorem two_pow_mul_unitsInOne (k : Nat) {e : Nat} (size : 1074 = e) :
    2 ^ k * unitsInOne = 2 ^ (k + e) := by
  rw [unitsInOne_eq size, Nat.pow_add]

theorem pattern_nearest_le_of_units (h : num * unitsInOne / den < 2 ^ k * unitsInOne) :
    (nearest num den).pattern ≤ (k + 1021 + 2) * fractions := by
  obtain ⟨e, size⟩ : ∃ e, 1074 = e := ⟨_, rfl⟩
  have exponent : k + e = k + 1021 + 53 := by omega
  rw [two_pow_mul_unitsInOne k size, exponent] at h
  exact pattern_nearest_le h

theorem isFinite_nearest (h : num * unitsInOne / den < 2 ^ 128 * unitsInOne) :
    (nearest num den).isFinite = true :=
  decide_eq_true (lt_of_le_of_lt (pattern_nearest_le_of_units h) (by decide))

theorem magnitude_nearest_lt (h : num * unitsInOne / den < 2 ^ k * unitsInOne) :
    (nearest num den).magnitude < 2 ^ (k + 1) * unitsInOne := by
  obtain ⟨e, size⟩ : ∃ e, 1074 = e := ⟨_, rfl⟩
  have exponent : k + 1 + e = k + 1021 + 54 := by omega
  rw [two_pow_mul_unitsInOne _ size, exponent]
  exact magnitude_lt (pattern_nearest_le_of_units h)

/-! ### Whole numbers -/

theorem units_ofNat_lt (h : n < 2 ^ k) : n * unitsInOne / 1 < 2 ^ k * unitsInOne := by
  rw [Nat.div_one]
  exact Nat.mul_lt_mul_of_pos_right h unitsInOne_pos

theorem isFinite_ofNat (h : n < 2 ^ 128) : (ofNat n).isFinite = true :=
  isFinite_nearest (units_ofNat_lt h)

theorem magnitude_ofNat_lt (h : n < 2 ^ k) : (ofNat n).magnitude < 2 ^ (k + 1) * unitsInOne :=
  magnitude_nearest_lt (units_ofNat_lt h)

theorem isFinite_ofInt {n : Int} (h : n.natAbs < 2 ^ 128) : (ofInt n).isFinite = true := by
  unfold ofInt
  split
  · rw [isFinite_negate, isFinite_ofNat h]
  · exact isFinite_ofNat h

/-- A whole number other than zero is one or more. -/
theorem unitsInOne_le_magnitude_ofNat (h : 0 < n) : unitsInOne ≤ (ofNat n).magnitude := by
  obtain ⟨e, size⟩ : ∃ e, 1074 = e := ⟨_, rfl⟩
  obtain ⟨s₀, least⟩ : ∃ s, s + 52 = e := ⟨1022, size⟩
  suffices enough : (s₀ + 1) * fractions ≤ (ofNat n).pattern by
    rw [unitsInOne_eq size, ← least]
    exact le_magnitude enough
  rw [ofNat, pattern_nearest, Nat.div_one, Nat.one_mul, le_min_iff]
  refine ⟨?_, Nat.mul_le_mul_right _ (by omega)⟩
  have one : unitsInOne ≤ n * unitsInOne := Nat.le_mul_of_pos_left _ h
  generalize n * unitsInOne = inUnits at one ⊢
  have present : inUnits ≠ 0 := (lt_of_lt_of_le unitsInOne_pos one).ne'
  have log : e ≤ inUnits.log2 := (Nat.le_log2 present).mpr (unitsInOne_eq size ▸ one)
  have whole : 2 ^ (52 + (inUnits.log2 - 52)) ≤ inUnits :=
    le_trans (Nat.pow_le_pow_right (by decide) (by omega)) (Nat.log2_self_le present)
  have scale : s₀ ≤ inUnits.log2 - 52 := by omega
  generalize inUnits.log2 - 52 = s at whole scale ⊢
  have significand : fractions ≤ inUnits / 2 ^ s := by
    rw [Nat.le_div_iff_mul_le (Nat.two_pow_pos s)]
    exact le_of_eq_of_le (Nat.pow_add 2 52 s).symm whole
  calc (s₀ + 1) * fractions = s₀ * fractions + fractions := Nat.succ_mul s₀ fractions
    _ ≤ s * fractions + roundedQuotient inUnits (2 ^ s) :=
        Nat.add_le_add (Nat.mul_le_mul_right _ scale)
          (le_trans significand (le_roundedQuotient _ _))

/-! ### Quotients -/

theorem units_quotient_le (least : unitsInOne ≤ y.magnitude) :
    x.magnitude * unitsInOne / y.magnitude ≤ x.magnitude :=
  Nat.div_le_of_le_mul (le_of_eq_of_le (Nat.mul_comm _ _) (Nat.mul_le_mul_right _ least))

theorem isFinite_quotient (least : unitsInOne ≤ y.magnitude)
    (bound : x.magnitude < 2 ^ 128 * unitsInOne) : (x.quotient y).isFinite = true :=
  isFinite_nearest (lt_of_le_of_lt (units_quotient_le least) bound)

theorem magnitude_quotient_lt (least : unitsInOne ≤ y.magnitude)
    (bound : x.magnitude < 2 ^ k * unitsInOne) :
    (x.quotient y).magnitude < 2 ^ (k + 1) * unitsInOne :=
  magnitude_nearest_lt (lt_of_le_of_lt (units_quotient_le least) bound)

end Targeting.Binary64
