/-!
# Digits

The ten digits of ASCII and the first letters of its alphabet stand for numbers from zero to fifteen.

## Main definitions

* `Text.hexValue?` — the value of a digit in base sixteen
* `Text.ofDigits?` — the number that digits in a base of at most sixteen give
-/

namespace Targeting.Text

/-- The value of a digit in base sixteen. -/
def hexValue? (c : Char) : Option Nat :=
  if c.isDigit then some (c.toNat - '0'.toNat)
  else if 'a' ≤ c ∧ c ≤ 'f' then some (c.toNat - 'a'.toNat + 10)
  else if 'A' ≤ c ∧ c ≤ 'F' then some (c.toNat - 'A'.toNat + 10)
  else none

/-- The number that digits in a base give; no digits give zero. -/
def ofDigits? (base : Nat) (cs : List Char) : Option Nat := do
  let digits ← cs.mapM hexValue?
  if digits.all (· < base) then some (digits.foldl (fun n d => n * base + d) 0) else none

end Targeting.Text
