/-!
# Binary64 numbers

A binary64 number is a word of 64 bits: a sign, eleven exponent bits and fifty-two fraction bits.
All arithmetic here is exact arithmetic on natural numbers followed by one rounding, so that every
operation can be reasoned about.

The *unit* is `2 ^ (-1074)`, the smallest positive number. Every finite number is a whole number of
units (`Binary64.units`), and infinity is counted as the first power of two that is out of reach.

## Main definitions

* `Binary64` — the words
* `Binary64.units` — the value in units
* `Binary64.nearest` — the number nearest to a fraction, ties to the even neighbour
* `Binary64.product`, `Binary64.quotient` — rounded product and quotient of magnitudes
* `Binary64.compare?` — comparison of values, undecided for not-a-number
* `Binary64.isSafe` — whether all whole numbers up to this magnitude can be told apart
-/

namespace Targeting

/-- A binary64 number, as its bits. -/
structure Binary64 where
  bits : UInt64
  deriving DecidableEq

namespace Binary64

/-- The number of values that the fraction bits can take. -/
def fractions : Nat := Nat.pow 2 52

/-- The weight of the sign bit. -/
def signBit : Nat := Nat.pow 2 63

/-- The number of units in one. -/
def unitsInOne : Nat := Nat.pow 2 1074

/-- The pattern of positive infinity; greater patterns are not numbers. -/
def infinityPattern : Nat := 2047 * fractions

/-- The bits below the sign. -/
def pattern (x : Binary64) : Nat := x.bits.toNat % signBit

/-- Whether the sign bit is set. -/
def isNegative (x : Binary64) : Bool := signBit ≤ x.bits.toNat

/-- Whether the word stands for no number. -/
def isNaN (x : Binary64) : Bool := infinityPattern < x.pattern

/-- Whether the word stands for a number other than the infinities. -/
def isFinite (x : Binary64) : Bool := x.pattern < infinityPattern

/-- The number with a given sign and given bits below it. -/
def ofPattern (negative : Bool) (n : Nat) : Binary64 :=
  ⟨.ofNat (if negative then n + signBit else n)⟩

/-- Zero with the sign bit clear. -/
def zero : Binary64 := ofPattern false 0

/-- Positive or negative infinity. -/
def infinity (negative : Bool) : Binary64 := ofPattern negative infinityPattern

/-- A word that stands for no number. -/
def nan : Binary64 := ofPattern false (infinityPattern + fractions / 2)

/-- The number with the sign bit exchanged. -/
def negate (x : Binary64) : Binary64 := ofPattern (!x.isNegative) x.pattern

/-! ### Values -/

/-- The power of two, in units, that the significand counts. -/
def scale (x : Binary64) : Nat := x.pattern / fractions - 1

/-- The significand: the fraction bits, with a leading one unless the exponent bits are all
clear. -/
def significand (x : Binary64) : Nat :=
  if x.pattern / fractions = 0 then x.pattern % fractions else fractions + x.pattern % fractions

/-- The magnitude in units. -/
def magnitude (x : Binary64) : Nat := x.significand * Nat.pow 2 x.scale

/-- The value in units. -/
def units (x : Binary64) : Int :=
  if x.isNegative then -(x.magnitude : Int) else x.magnitude

/-- Comparison of two numbers by value; the two zeros are equal, and a word that is not a number
compares with nothing. -/
def compare? (x y : Binary64) : Option Ordering :=
  if x.isNaN || y.isNaN then none else some (compare x.units y.units)

/-- Whether two numbers have the same value. -/
def sameValue (x y : Binary64) : Bool := x.compare? y == some .eq

/-- Whether a number lies between `-2 ^ 53` and `2 ^ 53`, where whole numbers are exact. -/
def isSafe (x : Binary64) : Bool := x.isFinite && x.magnitude ≤ Nat.pow 2 53 * unitsInOne

/-! ### Rounding -/

/-- The quotient of two natural numbers rounded to the nearest one, ties to the even one. -/
def roundedQuotient (num den : Nat) : Nat :=
  let below := num / den
  let rest := 2 * (num % den)
  if rest < den then below
  else if den < rest then below + 1
  else below + below % 2

/-- The non-negative number nearest to `num / den`, ties to the even significand; what lies half a
step or more beyond the greatest finite number is infinite. -/
def nearest (num den : Nat) : Binary64 :=
  let inUnits := num * unitsInOne
  let scale := Nat.log2 (inUnits / den) - 52
  let significand := roundedQuotient inUnits (den * Nat.pow 2 scale)
  ofPattern false (min (scale * fractions + significand) infinityPattern)

/-- The number nearest to a whole number. -/
def ofNat (n : Nat) : Binary64 := nearest n 1

/-- The number nearest to an integer. -/
def ofInt (n : Int) : Binary64 :=
  if n < 0 then (ofNat n.natAbs).negate else ofNat n.natAbs

/-- The rounded product of the magnitudes of two finite numbers. -/
def product (x y : Binary64) : Binary64 :=
  nearest (x.magnitude * y.magnitude) (unitsInOne * unitsInOne)

/-- The rounded quotient of the magnitudes of two finite numbers, the second not zero. -/
def quotient (x y : Binary64) : Binary64 := nearest x.magnitude y.magnitude

end Binary64

end Targeting
