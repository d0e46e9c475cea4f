import Targeting.Binary64.Shortest

/-!
# Text of binary64 numbers

A finite number is written with its shortest digits: in positional form while the place of its
first digit is between the fifth after the point and the sixteenth before it, and with an exponent
otherwise. A positional form always shows a point, and an exponent always shows its sign.

## Main definitions

* `DecimalForm`, `DecimalForm.write` — the choices of a written form, and writing
* `Binary64.text?` — the text of a number; infinities and not-a-number have none
-/

namespace Targeting

/-- The choices of a written form: the places of a first digit for which it is positional. -/
structure DecimalForm where
  lowestPlace : Int
  highestPlace : Int

namespace DecimalForm

/-- Small and moderate numbers are positional, from `0.00001` to below `10 ^ 16`. -/
def standard : DecimalForm := ⟨-5, 15⟩

/-- A decimal number in positional form, whose first digit stands at `place`. -/
def positional (digits : List Char) (place : Int) : List Char :=
  if place < 0 then
    ['0', '.'] ++ List.replicate (-place - 1).toNat '0' ++ digits
  else
    let before := place.toNat + 1
    let whole := digits.take before ++ List.replicate (before - digits.length) '0'
    let fraction := digits.drop before
    whole ++ ['.'] ++ (if fraction.isEmpty then ['0'] else fraction)

/-- A decimal number in exponent form, whose first digit stands at `place`. -/
def scientific (digits : List Char) (place : Int) : List Char :=
  let fraction := digits.drop 1
  digits.take 1 ++ (if fraction.isEmpty then [] else '.' :: fraction)
    ++ ['e', if place < 0 then '-' else '+'] ++ Nat.toDigits 10 place.natAbs

/-- The digits of a decimal number other than zero in this form. -/
def write (form : DecimalForm) (d : Decimal) : List Char :=
  let digits := Nat.toDigits 10 d.digits
  let place := d.exponent + digits.length - 1
  if form.lowestPlace ≤ place ∧ place ≤ form.highestPlace then positional digits place
  else scientific digits place

end DecimalForm

namespace Binary64

/-- The text of a finite number. -/
def text? (x : Binary64) : Option String :=
  if x.isFinite then
    let sign := if x.isNegative then ['-'] else []
    let digits :=
      if x.magnitude = 0 then ['0', '.', '0'] else DecimalForm.standard.write x.shortest
    some (.ofList (sign ++ digits))
  else none

end Binary64

end Targeting
