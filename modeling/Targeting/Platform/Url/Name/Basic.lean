import Targeting.Platform.Url.Name.Character
import Targeting.Platform.Url.Name.Punycode
import Targeting.Text.Composition
import Targeting.Text.Direction
import Targeting.Text.Joining

/-!
# Names of hosts

A name is made up of labels with dots between them. It may hold characters of all scripts, but it is
looked up in ASCII. Labels that look like others, or like nothing at all, are refused: a mark needs
a character before it, an invisible joiner needs letters that it joins, and the directions of
characters must not mix.

## Main definitions

* `Url.Name.isForbidden` — characters that no name may hold
* `Url.Name.Label` — labels, as they are shown and as they are written in ASCII
* `Url.Name.ascii?` — a name in ASCII
-/

namespace Targeting.Platform.Url.Name

open Targeting.Text

/-- Whether a character may not be in a name. -/
def isForbidden (c : Char) : Bool :=
  c.toNat ≤ 0x20 || c.toNat == 0x7F ||
    ['#', '%', '/', ':', '<', '>', '?', '@', '[', '\\', ']', '^', '|'].contains c

/-! ### Labels -/

/-- A label, as it is shown and as it is written in ASCII. -/
structure Label where
  shown : List Char
  written : List Char

/-- What a label begins with that is shown in other characters than it is written in. -/
def codeMark : List Char := ['x', 'n', '-', '-']

/-- Whether all characters are in ASCII. -/
def isAscii (cs : List Char) : Bool := cs.all (·.toNat < 128)

/-- The label that is written in ASCII behind the mark. What it shows must be in its chosen form,
with characters that stand for themselves. -/
def Label.ofCode? (code : List Char) : Option Label :=
  if code.isEmpty || code.getLast? = some '-' || 2000 < code.length || !isAscii code then none
  else do
    let shown ← Punycode.decode? code
    if shown.all isKept && composed shown == shown then
      some { shown, written := codeMark ++ code }
    else none

/-- The label that characters make up. -/
def Label.ofChars? (cs : List Char) : Option Label :=
  if codeMark.isPrefixOf cs then ofCode? (cs.drop 4)
  else if isAscii cs then some { shown := cs, written := cs }
  else some { shown := cs, written := codeMark ++ Punycode.encode cs }

/-! ### Marks and joiners -/

/-- Whether a text ends, read from behind, with a mark that suppresses a vowel. -/
def endsInVirama (before : List Char) : Bool := before.head?.any (combiningClass · == 9)

/-- Whether the letters before and after a place are joined but for what is there; those before are
given in reverse. -/
def wouldJoin (before after : List Char) : Bool :=
  let joinings (cs : List Char) := (cs.map joiningOf).dropWhile (· == .transparent)
  (joinings before).head?.any Joining.reachesNext &&
    (joinings after).head?.any Joining.reachesPrevious

/-- Whether the joiner and the breaker of joints stand where they have an effect. The joiner needs a
mark that suppresses a vowel before it, and the breaker needs such a mark too, or a joint. What
stands before is given in reverse. -/
def joinersFit : (before : List Char) → List Char → Bool
  | _, [] => true
  | before, c :: cs =>
    (if c = '\u200d' then endsInVirama before
      else if c = '\u200c' then endsInVirama before || wouldJoin before cs
      else true)
      && joinersFit (c :: before) cs

/-- Whether a label begins with a character of its own, its joiners fit, and it is not too long to
be written in ASCII. -/
def isWellFormed (cs : List Char) : Bool :=
  !cs.head?.any isMark && joinersFit [] cs && (isAscii cs || cs.length ≤ 1000)

/-! ### Directions -/

/-- Whether a character belongs to a text from right to left. The first 1424 characters do not. -/
def isFromRight (c : Char) : Bool :=
  if c.toNat < 0x590 then false else [.rightToLeft, .arabicDigit].contains (directionOf c)

/-- Whether characters have the parts of a text in one direction. Such a text begins with a letter,
which sets the direction, and it ends, marks aside, in a letter or a digit. -/
def hasOneDirection (cs : List Char) : Bool :=
  let directions := cs.map directionOf
  let last? := (directions.reverse.dropWhile (· == .mark)).head?
  match directions.head? with
  | none => true
  | some .leftToRight =>
    last?.any [.leftToRight, .europeanDigit].contains
      && !directions.any [.rightToLeft, .arabicDigit].contains
  | some .rightToLeft =>
    last?.any [.rightToLeft, .europeanDigit, .arabicDigit].contains
      && !directions.contains .leftToRight
      && !(directions.contains .europeanDigit && directions.contains .arabicDigit)
  | some _ => false

/-- Whether the directions of labels fit: if some character runs from right to left, each label must
have one direction. -/
def directionsFit (labels : List (List Char)) : Bool :=
  if labels.any (·.any isFromRight) then labels.all hasOneDirection else true

/-! ### Names -/

/-- A name in ASCII, if it may be looked up. -/
def ascii? (name : List Char) : Option (List Char) := do
  let name := composed (← name.mapM written?).flatten
  if name.any isForbidden then none
  else
    let labels ← (splitOn (· == '.') name).mapM Label.ofChars?
    let shown := labels.map Label.shown
    if shown.all isWellFormed && directionsFit shown then
      some (join '.' (labels.map Label.written))
    else none

end Targeting.Platform.Url.Name
