import Targeting.Text.Blank
import Targeting.Text.DecimalDigit
import Targeting.Text.Pieces

/-!
# Versions

A version is one to three components, each a run of decimal digits, joined by dots. A hyphen or a
plus sign may follow, whichever comes first decides: after a hyphen the version is a pre-release,
after a plus sign a build, and the text behind it is its suffix. No blank may occur anywhere.

## Main definitions

* `Version` — versions
* `Version.parts` — the components, followed by the suffix if there is one
* `Version.ofText?` — the version that a text is
-/

namespace Targeting

namespace Version

/-- What a version is a version of. -/
inductive Stage where
  | release
  | preRelease
  | build
  deriving DecidableEq

end Version

/-- A version. -/
structure Version where
  components : List (List Char)
  stage : Version.Stage
  suffix : List Char
  deriving DecidableEq

namespace Version

/-- The parts that are compared one by one: the components, and the suffix unless it is empty. -/
def parts (v : Version) : List (List Char) :=
  v.components ++ (if v.suffix.isEmpty then [] else [v.suffix])

/-- Whether a version is a pre-release. -/
def isPreRelease (v : Version) : Bool := v.stage == .preRelease

/-- Whether a version has something behind its components. -/
def isMarked (v : Version) : Bool := v.stage != .release

/-! ### Reading -/

/-- Whether a character ends the components. -/
def isMark (c : Char) : Bool := c = '-' || c = '+'

/-- Whether a text is a run of decimal digits. -/
def isDigitRun (cs : List Char) : Bool := !cs.isEmpty && cs.all Text.isDecimalDigit

/-- What the text behind the components says: its first character gives the stage, and the rest is the
suffix. -/
def readMark : List Char → Stage × List Char
  | '-' :: suffix => (.preRelease, suffix)
  | '+' :: suffix => (.build, suffix)
  | _ => (.release, [])

/-- The version that a sequence of characters is. -/
def ofChars? (cs : List Char) : Option Version :=
  let components := Text.splitOn (· == '.') (cs.takeWhile (!isMark ·))
  let (stage, suffix) := readMark (cs.dropWhile (!isMark ·))
  if cs.any Text.isBlank then none
  else if components.length ≤ 3 ∧ components.all isDigitRun then
    some { components, stage, suffix }
  else none

/-- The version that a text is. -/
def ofText? (s : String) : Option Version := ofChars? s.toList

end Version

end Targeting
