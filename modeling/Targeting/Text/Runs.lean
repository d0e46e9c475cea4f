import Targeting.Text.Blank
import Targeting.Text.Digits
import Targeting.Text.Pieces

/-!
# Tables of runs

A property of characters tends to be the same for code points in a row, so a table of runs is much
shorter than one of characters. A table is written as words like `5D0-5EA=R`: the first code point,
the last one unless it is the first, both in base sixteen, and what is said of them.

## Main definitions

* `Text.ofCodePoints?` — the characters with some code points
* `Text.Run` — code points in a row of which the same is said
* `Text.Runs` — a table of runs, in the order of their code points
* `Text.Runs.ofText` — the table that words stand for
* `Text.Runs.find?` — the run with a code point
-/

namespace Targeting.Text

/-- The characters whose code points are written in base sixteen, with dots between them. -/
def ofCodePoints? (cs : List Char) : Option (List Char) :=
  (splitOn (· == '.') cs).mapM fun digits => (ofDigits? 16 digits).map Char.ofNat

/-- Code points in a row of which the same is said. -/
structure Run (α : Type) where
  first : Nat
  last : Nat
  value : α

/-- A table of runs, in the order of their code points. -/
structure Runs (α : Type) where
  toArray : Array (Run α)

variable {α : Type}

/-- The run that a word stands for, if `value?` can read what it says. -/
def Run.ofWord? (value? : List Char → Option α) (word : List Char) : Option (Run α) :=
  match word.dropWhile (· != '=') with
  | [] => none
  | _ :: said => do
    let points := splitOn (· == '-') (word.takeWhile (· != '='))
    let first ← ofDigits? 16 (← points.head?)
    let last ← ofDigits? 16 (← points.getLast?)
    let value ← value? said
    return { first, last, value }

namespace Runs

/-- A table that is being read: the word that has begun, in reverse, and the runs before it. -/
structure Reading (α : Type) where
  word : List Char
  runs : Array (Run α)

/-- Takes the word that has begun as a run. A word that stands for none is passed over. -/
def Reading.finish (value? : List Char → Option α) (s : Reading α) : Reading α :=
  match Run.ofWord? value? s.word.reverse with
  | some run => { word := [], runs := s.runs.push run }
  | none => { s with word := [] }

/-- Reads one character more. -/
def Reading.next (value? : List Char → Option α) (s : Reading α) (c : Char) : Reading α :=
  if isBlank c then s.finish value? else { s with word := c :: s.word }

/-- The table that words between blanks stand for. -/
def ofText (value? : List Char → Option α) (s : String) : Runs α :=
  ⟨((s.toList.foldl (Reading.next value?) ⟨[], #[]⟩).finish value?).runs⟩

/-- Looks for a code point among the runs from one place of a table to another. The run in the
middle tells on which side to go on. -/
def search (runs : Array (Run α)) (n low high : Nat) : Option (Run α) :=
  if low < high then
    let middle := (low + high) / 2
    match runs[middle]? with
    | none => none
    | some r =>
      if n < r.first then search runs n low middle
      else if r.last < n then search runs n (middle + 1) high
      else some r
  else none
termination_by high - low

/-- The run with a code point. -/
def find? (runs : Runs α) (n : Nat) : Option (Run α) := search runs.toArray n 0 runs.toArray.size

/-- What a table says of a code point. -/
def get? (runs : Runs α) (n : Nat) : Option α := (runs.find? n).map Run.value

end Runs

end Targeting.Text
