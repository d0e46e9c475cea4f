import Targeting.Version.Basic

/-!
# Comparing a user's version with a condition's

The parts of the condition's version are compared one by one with those of the user's version; the
first difference decides. Parts of ASCII digits are compared as numbers and all others as text. What
the user's version has beyond the condition's parts does not matter, except that a pre-release comes
before the release of the same parts.

## Main definitions

* `Version.compareNumbers`, `Version.compareTexts` — the two ways to compare parts
* `Version.compareWith` — the place of a user's version relative to a condition's
* `Version.order` — the same for texts, naming the text that is no version
-/

namespace Targeting

namespace Version

/-- Whether a part is compared as a number. -/
def isNumeric (part : List Char) : Bool := !part.isEmpty && part.all Char.isDigit

/-- Lexicographic order by code points. -/
def compareTexts : List Char → List Char → Ordering
  | [], [] => .eq
  | [], _ :: _ => .lt
  | _ :: _, [] => .gt
  | c :: cs, d :: ds => (compare c.toNat d.toNat).then (compareTexts cs ds)

/-- The order of two digit runs of any length as numbers: without leading zeros the shorter one is
smaller, and of equal length the text decides. -/
def compareNumbers (a b : List Char) : Ordering :=
  let a := a.dropWhile (· = '0')
  let b := b.dropWhile (· = '0')
  (compare a.length b.length).then (compareTexts a b)

/-- The place of a part of the user's version relative to one of the condition's. Where texts differ,
a pre-release that meets something else is always the lower one. -/
def comparePart (condition user : Version) (wanted actual : List Char) : Ordering :=
  if isNumeric actual && isNumeric wanted then compareNumbers actual wanted
  else
    match compareTexts actual wanted with
    | .lt => if condition.isPreRelease && !user.isPreRelease then .gt else .lt
    | .gt => if !condition.isPreRelease && user.isPreRelease then .lt else .gt
    | .eq => .eq

/-- The place of a user's version from its parts on. When the user's parts run out first, the
user's version is the lower one, unless the condition's version is marked. -/
def compareParts (condition user : Version) : (wanted actual : List (List Char)) → Ordering
  | [], _ => if user.isPreRelease && !condition.isPreRelease then .lt else .eq
  | _ :: _, [] => if condition.isMarked then .gt else .lt
  | w :: ws, a :: as => (comparePart condition user w a).then (compareParts condition user ws as)

/-- The place of a user's version relative to a condition's version. -/
def compareWith (condition user : Version) : Ordering :=
  compareParts condition user condition.parts user.parts

/-- The place of a user's version relative to a condition's, both as text. A text that is no version
is named, the user's before the condition's. -/
def order (condition user : String) : Except String Ordering :=
  match ofText? user with
  | none => .error user
  | some u =>
    match ofText? condition with
    | none => .error condition
    | some c => .ok (compareWith c u)

end Version

end Targeting
