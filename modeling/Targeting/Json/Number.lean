import Targeting.Json.Basic

/-!
# Numbers in JSON text

A whole number that fits into sixty-four bits is read exactly. Any other number is read as a
binary64 number from as many leading digits as fit into sixty-four bits: their nearest binary64
number is multiplied or divided once by a power of ten. A number beyond the greatest finite one
has no value.

## Main definitions

* `NumberText` — the parts of a number in text
* `NumberText.scan?` — the number at the start of a text
* `NumberText.value?` — the number that it stands for
-/

namespace Targeting

/-- The parts of a number in text. The fraction is present when a point is, and the exponent when
its mark is. -/
structure NumberText where
  negative : Bool
  whole : List Nat
  fraction : Option (List Nat)
  exponent : Option Int

namespace NumberText

/-! ### Scanning -/

/-- The value of a decimal digit. -/
def digitValue (c : Char) : Nat := c.toNat - '0'.toNat

/-- The digits at the start of a text, and what follows them. -/
def scanDigits (cs : List Char) : List Nat × List Char :=
  ((cs.takeWhile Char.isDigit).map digitValue, cs.dropWhile Char.isDigit)

/-- The digits at the start of a text, of which there must be some. -/
def scanSomeDigits? (cs : List Char) : Option (List Nat × List Char) :=
  let (digits, rest) := scanDigits cs
  if digits.isEmpty then none else some (digits, rest)

/-- The digits before the point; a leading zero stands alone. -/
def scanWhole? : List Char → Option (List Nat × List Char)
  | '0' :: rest => some ([0], rest)
  | cs => scanSomeDigits? cs

/-- The fraction, if a point follows. -/
def scanFraction? : List Char → Option (Option (List Nat) × List Char)
  | '.' :: cs => (scanSomeDigits? cs).map fun (digits, rest) => (some digits, rest)
  | cs => some (none, cs)

/-- The natural number with the given decimal digits. -/
def ofDigits (digits : List Nat) : Nat := digits.foldl (fun n d => n * 10 + d) 0

/-- The exponent after its mark. -/
def scanExponentDigits? : List Char → Option (Option Int × List Char)
  | '-' :: cs => (scanSomeDigits? cs).map fun (ds, rest) => (some (-(ofDigits ds : Int)), rest)
  | '+' :: cs => (scanSomeDigits? cs).map fun (ds, rest) => (some (ofDigits ds : Int), rest)
  | cs => (scanSomeDigits? cs).map fun (ds, rest) => (some (ofDigits ds : Int), rest)

/-- The exponent, if its mark follows. -/
def scanExponent? : List Char → Option (Option Int × List Char)
  | 'e' :: cs => scanExponentDigits? cs
  | 'E' :: cs => scanExponentDigits? cs
  | cs => some (none, cs)

/-- The sign, and what follows it. -/
def scanSign : List Char → Bool × List Char
  | '-' :: cs => (true, cs)
  | cs => (false, cs)

/-- The number at the start of a text, and what follows it. -/
def scan? (cs : List Char) : Option (NumberText × List Char) := do
  let (negative, cs) := scanSign cs
  let (whole, cs) ← scanWhole? cs
  let (fraction, cs) ← scanFraction? cs
  let (exponent, cs) ← scanExponent? cs
  return (⟨negative, whole, fraction, exponent⟩, cs)

/-! ### Values -/

/-- The first number that no longer fits into the significand. -/
def significandLimit : Nat := Nat.pow 2 64

/-- Takes digits before the point into a significand until the first that does not fit. That one and
all further ones are counted. -/
def takeWhole : List Nat → Nat → Nat × Nat
  | [], n => (n, 0)
  | d :: ds, n =>
    if n * 10 + d < significandLimit then takeWhole ds (n * 10 + d) else (n, ds.length + 1)

/-- Takes digits after the point into a significand until the first that does not fit, and counts
those taken. -/
def takeFraction : List Nat → Nat → Nat × Nat
  | [], n => (n, 0)
  | d :: ds, n =>
    if n * 10 + d < significandLimit then
      let (m, taken) := takeFraction ds (n * 10 + d)
      (m, taken + 1)
    else (n, 0)

/-- The greatest power of ten that a significand is multiplied with or divided by in one step. -/
def greatestPower : Int := 308

/-- A power of ten as a binary64 number. -/
def powerOfTen (n : Int) : Binary64 := .ofNat (Nat.pow 10 n.toNat)

/-- A significand times a power of ten; none if it is too great. One division reaches down to the
greatest power, a second one reaches down to twice that, and below there is only zero. -/
def scaled? (significand : Nat) (exponent : Int) : Option Binary64 :=
  let x := Binary64.ofNat significand
  if significand = 0 then some .zero
  else if greatestPower < exponent then none
  else if 0 ≤ exponent then
    let y := x.product (powerOfTen exponent)
    if y.isFinite then some y else none
  else if -greatestPower ≤ exponent then some (x.quotient (powerOfTen (-exponent)))
  else if -(2 * greatestPower) ≤ exponent then
    some ((x.quotient (powerOfTen greatestPower)).quotient
      (powerOfTen (-exponent - greatestPower)))
  else some .zero

/-- The binary64 number that a number in text is read as. -/
def float? (t : NumberText) : Option Binary64 :=
  let (n, dropped) := takeWhole t.whole 0
  let (significand, taken) := takeFraction (t.fraction.getD []) n
  let magnitude := scaled? significand ((dropped : Int) - taken + t.exponent.getD 0)
  if t.negative then magnitude.map Binary64.negate else magnitude

/-- The whole number that a number in text stands for, if it has neither point nor exponent and fits
into sixty-four bits. A zero with a sign is not a whole number. -/
def int? (t : NumberText) : Option Int :=
  if t.fraction.isSome || t.exponent.isSome then none
  else
    let n := ofDigits t.whole
    if t.negative then
      if 0 < n ∧ n ≤ Nat.pow 2 63 then some (-(n : Int)) else none
    else if n < Nat.pow 2 64 then some n else none

/-- The number that a number in text stands for; none if it is too great. -/
def value? (t : NumberText) : Option Number :=
  match t.int? with
  | some n => some (.int n)
  | none => t.float?.map .float

end NumberText

end Targeting
