import Targeting.Platform.Url.Name.Table
import Targeting.Text.Runs

/-!
# Characters of names

A name is looked up in one form only: in lower case, in plain characters instead of those that
merely look different, and without characters that cannot be seen. Characters that no name may hold
are refused.

## Main definitions

* `Url.Name.written?` — the characters that stand for a character in a name
* `Url.Name.isKept` — whether a character stands for itself
-/

namespace Targeting.Platform.Url.Name

open Targeting.Text

/-- What becomes of the characters of a run. -/
inductive Entry where
  | refused
  | replaced (cs : List Char)
  /-- The first character is replaced by a certain one, the next by the next, and so on. -/
  | shifted (n : Nat)
  /-- As before, but every other character is kept. -/
  | alternating (n : Nat)

/-- What becomes of characters, as it is written in the table. -/
def Entry.ofChars? : List Char → Option Entry
  | ['!'] => some refused
  | [] => some (replaced [])
  | '+' :: cs => (ofDigits? 16 cs).map shifted
  | '/' :: cs => (ofDigits? 16 cs).map alternating
  | cs => (ofCodePoints? cs).map replaced

/-- The characters that are not kept. -/
def entries : Runs Entry := .ofText Entry.ofChars? table

/-- The characters that a run gives instead of one of its characters, unless it refuses them. -/
def Entry.of? (run : Run Entry) (c : Char) : Option (List Char) :=
  let offset := c.toNat - run.first
  match run.value with
  | refused => none
  | replaced cs => some cs
  | shifted n => some [.ofNat (n + offset)]
  | alternating n => some [if offset % 2 = 0 then .ofNat (n + offset) else c]

/-- The characters that the table gives for one, if it is not refused. -/
def looked? (c : Char) : Option (List Char) :=
  match entries.find? c.toNat with
  | none => some [c]
  | some run => Entry.of? run c

/-- The characters that stand for a character in a name, if it is not refused. Of those in ASCII all
are accepted here. -/
def written? (c : Char) : Option (List Char) :=
  if c.toNat < 128 then some [c.toLower] else looked? c

/-- Whether a character stands for itself. -/
def isKept (c : Char) : Bool := written? c == some [c]

end Targeting.Platform.Url.Name
