/-!
# Names in letters of ASCII

A part of a name with characters beyond ASCII is written with letters, digits and hyphens. A machine
reads what is written: it starts with the characters of ASCII and inserts the others in the order of
their code points. It steps through all places of the text for one code point, then through those
for the next, and what is written is the number of steps from each insertion to the next one.

## Main definitions

* `Punycode.encode` — a part of a name in letters of ASCII
* `Punycode.decode?` — the part of a name that is written in such letters
-/

namespace Targeting.Platform.Url.Punycode

/-! ### Numbers -/

/-- A digit in base thirty-six. -/
def digit (n : Nat) : Char :=
  if n < 26 then Char.ofNat ('a'.toNat + n) else Char.ofNat ('0'.toNat + (n - 26))

/-- The value of a digit in base thirty-six. -/
def value? (c : Char) : Option Nat :=
  if c.isLower then some (c.toNat - 'a'.toNat)
  else if c.isUpper then some (c.toNat - 'A'.toNat)
  else if c.isDigit then some (c.toNat - '0'.toNat + 26)
  else none

/-- A digit below the threshold ends a number. The threshold grows with the place of the digit, and
the bias tells how many digits are expected. -/
def threshold (bias place : Nat) : Nat :=
  if place ≤ bias then 1 else if bias + 26 ≤ place then 26 else place - bias

theorem threshold_pos (bias place : Nat) : 0 < threshold bias place := by
  unfold threshold
  split
  · omega
  · split <;> omega

/-- A number as digits, the lowest first. -/
def digits (bias place n : Nat) : List Char :=
  let t := threshold bias place
  if n < t then [digit n]
  else digit (t + (n - t) % (36 - t)) :: digits bias (place + 36) ((n - t) / (36 - t))
termination_by n
decreasing_by
  have := threshold_pos bias place
  exact Nat.lt_of_le_of_lt (Nat.div_le_self _ _) (by omega)

/-- No number of steps is as great as this. -/
def stepLimit : Nat := 4294967296

/-- The number that digits stand for, added to `sum`, and the characters behind them. The digit in
front counts `weight` times. -/
def read? (bias : Nat) : (place weight sum : Nat) → List Char → Option (Nat × List Char)
  | _, _, _, [] => none
  | place, weight, sum, c :: cs => do
    let d ← value? c
    let sum := sum + d * weight
    let t := threshold bias place
    if stepLimit ≤ sum then none
    else if d < t then some (sum, cs)
    else if stepLimit ≤ weight * (36 - t) then none
    else read? bias (place + 36) (weight * (36 - t)) sum cs

theorem length_lt_of_read? {bias place weight sum n : Nat} {cs rest : List Char}
    (h : read? bias place weight sum cs = some (n, rest)) : rest.length < cs.length := by
  induction cs generalizing place weight sum with
  | nil => cases h
  | cons c cs ih =>
    simp only [read?, Option.bind_eq_bind, Option.bind_eq_some_iff] at h
    obtain ⟨d, _, h⟩ := h
    split at h
    · cases h
    · split at h
      · cases h
        exact Nat.lt_succ_self _
      · split at h
        · cases h
        · exact Nat.lt_succ_of_lt (ih h)

/-- Divides a number until it has few digits, and counts the digits. -/
def shrink (n count : Nat) : Nat × Nat :=
  if 455 < n then shrink (n / 35) (count + 1) else (n, count)
termination_by n
decreasing_by exact Nat.div_lt_self (by omega) (by decide)

/-- The bias for the number after `n`, when there are `count` characters. The first number is great,
since it leads from ASCII to the script. -/
def bias (n count : Nat) (isFirst : Bool) : Nat :=
  let n := if isFirst then n / 700 else n / 2
  let (n, places) := shrink (n + n / count) 0
  36 * places + 36 * n / (n + 38)

/-! ### Writing -/

/-- The state of the machine whose insertions are written. -/
structure Writer where
  /-- The steps since the last insertion. -/
  steps : Nat
  bias : Nat
  /-- The number of characters in the text. -/
  count : Nat
  output : List Char

/-- Steps over one character of the finished text, at the code point `n`. -/
def Writer.pass (basic n : Nat) (s : Writer) (c : Nat) : Writer :=
  if c < n then { s with steps := s.steps + 1 }
  else if c = n then
    { steps := 0
      bias := Punycode.bias s.steps (s.count + 1) (s.count == basic)
      count := s.count + 1
      output := s.output ++ digits s.bias 36 s.steps }
  else s

/-- Inserts the characters of each code point in turn, from `m` on; `fuel` limits the number of code
points. -/
def Writer.insert (basic : Nat) (cs : List Nat) : (fuel : Nat) → Nat → Writer → Writer
  | 0, _, s => s
  | fuel + 1, m, s =>
    match (cs.filter (m ≤ ·)).min? with
    | none => s
    | some n =>
      let s := { s with steps := s.steps + (n - m) * (s.count + 1) }
      let s := cs.foldl (pass basic n) s
      insert basic cs fuel (n + 1) { s with steps := s.steps + 1 }

/-- A part of a name in letters of ASCII. -/
def encode (cs : List Char) : List Char :=
  let basic := cs.filter (·.toNat < 128)
  let start : Writer := ⟨0, 72, basic.length, []⟩
  let written := start.insert basic.length (cs.map Char.toNat) (cs.length + 1) 128
  (if basic.isEmpty then [] else basic ++ ['-']) ++ written.output

/-! ### Reading -/

/-- Inserts the characters whose steps are written: `place` and `n` are the place and the code point
that have been reached. -/
def insertAll? (bias n place : Nat) (text : List Char) (cs : List Char) : Option (List Char) :=
  match cs with
  | [] => some text
  | c :: cs =>
    match _h : read? bias 36 1 place (c :: cs) with
    | none => none
    | some (sum, rest) =>
      let count := text.length + 1
      let n := n + sum / count
      if n.isValidChar then
        insertAll? (Punycode.bias (sum - place) count (place == 0)) n (sum % count + 1)
          (text.insertIdx (sum % count) (Char.ofNat n)) rest
      else none
termination_by cs.length
decreasing_by exact length_lt_of_read? _h

/-- The part of a name that is written in letters of ASCII. The characters of ASCII that it holds
stand before the last hyphen. -/
def decode? (cs : List Char) : Option (List Char) :=
  let steps := (cs.reverse.takeWhile (· != '-')).reverse
  let basic := cs.take (cs.length - steps.length - 1)
  insertAll? 72 128 0 basic (if basic.isEmpty then cs else steps)

end Targeting.Platform.Url.Punycode
