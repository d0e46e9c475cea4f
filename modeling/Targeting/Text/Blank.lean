/-!
# Blank characters

The characters with the Unicode property *White_Space*.

## Main definitions

* `Text.isBlank` — whether a character has the property
-/

namespace Targeting.Text

/-- The runs of code points with the property, as first and last point. -/
def blankRuns : List (Nat × Nat) :=
  [(0x9, 0xD), (0x20, 0x20), (0x85, 0x85), (0xA0, 0xA0), (0x1680, 0x1680), (0x2000, 0x200A),
    (0x2028, 0x2029), (0x202F, 0x202F), (0x205F, 0x205F), (0x3000, 0x3000)]

/-- Whether a character is blank. -/
def isBlank (c : Char) : Bool :=
  blankRuns.any fun (first, last) => first ≤ c.toNat && c.toNat ≤ last

end Targeting.Text
