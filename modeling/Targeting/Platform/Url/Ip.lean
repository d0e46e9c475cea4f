import Targeting.Text.Digits
import Targeting.Text.Pieces

/-!
# Hosts given by numbers

A host whose last part is a number must be an address of four bytes, which may be written with fewer
parts and in base eight, ten or sixteen. A host in brackets must be an address of eight groups of
sixteen bits, where a run of zero groups may be left out once.

## Main definitions

* `Url.endsInNumber`, `Url.ipv4?`, `Url.ipv4Text` — addresses of four bytes
* `Url.ipv6?`, `Url.ipv6Text` — addresses of eight groups
-/

namespace Targeting.Platform.Url

/-- A number in base sixteen, eight or ten, as its beginning tells; no digits are zero. -/
def ipv4Number? (cs : List Char) : Option Nat :=
  match cs with
  | [] => none
  | '0' :: 'x' :: cs => Text.ofDigits? 16 cs
  | '0' :: 'X' :: cs => Text.ofDigits? 16 cs
  | '0' :: c :: cs => Text.ofDigits? 8 (c :: cs)
  | cs => Text.ofDigits? 10 cs

/-- The parts between dots; a dot at the end is ignored. -/
def dotted (host : List Char) : List (List Char) :=
  let parts := Text.splitOn (· == '.') host
  if 1 < parts.length ∧ parts.getLast? = some [] then parts.dropLast else parts

/-- Whether the last part of a host is a number. -/
def endsInNumber (host : List Char) : Bool :=
  match (dotted host).getLast? with
  | some last => (!last.isEmpty && last.all Char.isDigit) || (ipv4Number? last).isSome
  | none => false

/-- The number of the bytes of an address of four bytes: the last part may stand for several. -/
def ipv4? (host : List Char) : Option Nat := do
  let numbers ← (dotted host).mapM ipv4Number?
  let last ← numbers.getLast?
  let first := numbers.dropLast
  if 3 < first.length ∨ first.any (255 < ·) ∨ Nat.pow 256 (4 - first.length) ≤ last then none
  else some (first.zipIdx.foldl (fun n (byte, i) => n + byte * Nat.pow 256 (3 - i)) last)

/-- The text of an address of four bytes. -/
def ipv4Text (n : Nat) : List Char :=
  Text.join '.' ([3, 2, 1, 0].map fun i => Nat.toDigits 10 (n / Nat.pow 256 i % 256))

/-- A byte in base ten without leading zeros. -/
def ipv4Byte? (cs : List Char) : Option Nat := do
  let n ← if cs.isEmpty then none else Text.ofDigits? 10 cs
  if n ≤ 255 ∧ (cs.length = 1 ∨ cs.head? ≠ some '0') then some n else none

/-- The groups of a part: up to four digits are one group, and four bytes are two. -/
def ipv6Groups? (isLast : Bool) (cs : List Char) : Option (List Nat) :=
  match Text.splitOn (· == '.') cs with
  | [_] =>
    if cs.isEmpty ∨ 4 < cs.length then none else (Text.ofDigits? 16 cs).map fun n => [n]
  | [a, b, c, d] => do
    let a ← ipv4Byte? a
    let b ← ipv4Byte? b
    let c ← ipv4Byte? c
    let d ← ipv4Byte? d
    if isLast then some [a * 256 + b, c * 256 + d] else none
  | _ => none

/-- The groups of parts between colons; only the last part may hold bytes. -/
def ipv6Run? (mayHoldBytes : Bool) (cs : List Char) : Option (List Nat) := do
  if cs.isEmpty then some []
  else
    let parts := Text.splitOn (· == ':') cs
    let groups ← parts.zipIdx.mapM fun (part, i) =>
      ipv6Groups? (mayHoldBytes && i + 1 == parts.length) part
    return groups.flatten

/-- What stands before and after the first pair of colons. -/
def splitGap : List Char → Option (List Char × List Char)
  | ':' :: ':' :: cs => some ([], cs)
  | c :: cs => (splitGap cs).map fun (before, after) => (c :: before, after)
  | [] => none

/-- The groups of an address of eight groups. -/
def ipv6? (host : List Char) : Option (List Nat) :=
  match splitGap host with
  | none => do
    let groups ← ipv6Run? true host
    if groups.length = 8 then some groups else none
  | some (before, after) => do
    let before ← ipv6Run? false before
    let after ← ipv6Run? true after
    let given := before.length + after.length
    if given < 8 then some (before ++ List.replicate (8 - given) 0 ++ after) else none

/-- The length of the run of zeros at the start of a list. -/
def zeroRun (groups : List Nat) : Nat := (groups.takeWhile (· == 0)).length

/-- The place of the first longest run of zeros, if it is longer than one. -/
def longestGap (groups : List Nat) : Option Nat :=
  let runs := (List.range groups.length).map fun i => (i, zeroRun (groups.drop i))
  let best := runs.foldl (fun best run => if best.2 < run.2 then run else best) (0, 1)
  if 1 < best.2 then some best.1 else none

/-- Groups between colons. -/
def ipv6GroupsText (groups : List Nat) : List Char := Text.join ':' (groups.map (Nat.toDigits 16))

/-- The text of an address of eight groups; the first longest run of zeros is left out. -/
def ipv6Text (groups : List Nat) : List Char :=
  match longestGap groups with
  | none => ipv6GroupsText groups
  | some i =>
    ipv6GroupsText (groups.take i) ++ "::".toList
      ++ ipv6GroupsText (groups.drop (i + zeroRun (groups.drop i)))

end Targeting.Platform.Url
