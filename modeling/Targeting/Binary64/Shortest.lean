import Targeting.Binary64.Basic

/-!
# Shortest decimal form of a binary64 number

Among the decimal numbers that round to a given binary64 number, the shortest form takes one from
the coarsest decimal grid that has any, and of that grid the one nearest to the number itself (the
even one of two that are equally near).

## Main definitions

* `Decimal` — digits and a power of ten
* `Binary64.Reach` — the decimal numbers that round to a number
* `Binary64.shortest` — the shortest form
-/

namespace Targeting

/-- The decimal number `digits * 10 ^ exponent`. -/
structure Decimal where
  digits : Nat
  exponent : Int
  deriving DecidableEq

namespace Binary64

/-- The numbers that round to a given number, in quarter units: from `lower` to `upper` around
`centre`, the ends included or not. -/
structure Reach where
  lower : Nat
  centre : Nat
  upper : Nat
  closed : Bool

/-- The reach of a finite number. The step below a power of two is half the step above it, and a tie
goes to the even significand. -/
def reach (x : Binary64) : Reach :=
  let step := Nat.pow 2 x.scale
  let centre := 4 * x.magnitude
  let narrow := x.significand = fractions ∧ 0 < x.scale
  { lower := centre - (if narrow then step else 2 * step)
    centre
    upper := centre + 2 * step
    closed := x.significand % 2 = 0 }

/-- Whether `digits * step` quarter units, with both sides scaled by `den`, is in reach. -/
def Reach.contains (r : Reach) (digits step den : Nat) : Bool :=
  let value := digits * step
  if r.closed then r.lower * den ≤ value && value ≤ r.upper * den
  else r.lower * den < value && value < r.upper * den

/-- The step of the grid of multiples of `10 ^ exponent`, as a fraction of quarter units. -/
def gridStep (exponent : Int) : Nat × Nat :=
  (4 * unitsInOne * Nat.pow 10 exponent.toNat, Nat.pow 10 (-exponent).toNat)

/-- The point of a grid that is in reach and nearest to the centre, if there is one. -/
def Reach.onGrid? (r : Reach) (exponent : Int) : Option Nat :=
  let (step, den) := gridStep exponent
  let centre := r.centre * den
  let below := centre / step
  let toBelow := centre - below * step
  let toAbove := (below + 1) * step - centre
  let belowFits := below ≠ 0 && r.contains below step den
  let aboveFits := r.contains (below + 1) step den
  if belowFits && aboveFits then
    some (if toBelow < toAbove then below
      else if toAbove < toBelow then below + 1
      else below + below % 2)
  else if belowFits then some below
  else if aboveFits then some (below + 1)
  else none

/-- The first grid with a point in reach, of the `count` grids that start with `exponent` and grow
finer. -/
def Reach.search (r : Reach) : (count : Nat) → (exponent : Int) → Decimal
  | 0, exponent => ⟨0, exponent⟩
  | count + 1, exponent =>
    match r.onGrid? exponent with
    | some digits => ⟨digits, exponent⟩
    | none => r.search count (exponent - 1)

/-- The exponent of a power of ten that exceeds `2 ^ exponent`: the logarithm of two is a little below
`0.30103`, and the two places to spare cover rounding down. -/
def decimalBound (exponent : Int) : Int := exponent * 30103 / 100000 + 2

/-- The shortest form of the magnitude of a finite number other than zero. Twenty-four grids are
enough: seventeen digits tell all numbers apart, and the bound is a few grids too coarse at most. -/
def shortest (x : Binary64) : Decimal :=
  x.reach.search 24 (decimalBound ((Nat.log2 x.magnitude : Int) - 1073))

end Binary64

end Targeting
