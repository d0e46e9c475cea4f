/-!
# Random identifiers

A random identifier is thirty-two digits in base sixteen in five groups. One digit marks it as random,
and one more says that the standard layout is used.

## Main definitions

* `Text.randomId` — the identifier for a drawn number
* `Text.isRandomId` — whether a text is such an identifier
-/

namespace Targeting.Text

/-- The last digits of a number in base sixteen, as many as asked for. -/
def hexDigits : (count : Nat) → Nat → List Char
  | 0, _ => []
  | count + 1, n => hexDigits count (n / 16) ++ [Nat.digitChar (n % 16)]

/-- The identifier for a drawn number. -/
def randomId (n : Nat) : String :=
  let digits := hexDigits 30 n
  .ofList (digits.take 8 ++ '-' :: (digits.drop 8).take 4 ++ '-' :: '4' :: (digits.drop 12).take 3 ++
    '-' :: '8' :: (digits.drop 15).take 3 ++ '-' :: digits.drop 18)

/-- What a place of an identifier may hold. -/
inductive IdPlace where
  | hyphen
  | digit
  | random
  | standard

/-- The places of an identifier. -/
def idPlaces : List IdPlace :=
  let digits (n : Nat) := List.replicate n IdPlace.digit
  digits 8 ++ .hyphen :: digits 4 ++ .hyphen :: .random :: digits 3 ++ .hyphen :: .standard ::
    digits 3 ++ .hyphen :: digits 12

/-- Whether a place may hold a character. -/
def IdPlace.admits : IdPlace → Char → Bool
  | hyphen, c => c == '-'
  | digit, c => c.isDigit || ('a' ≤ c && c ≤ 'f')
  | random, c => c == '4'
  | standard, c => c == '8' || c == '9' || c == 'a' || c == 'b'

/-- Whether a text is a random identifier. -/
def isRandomId (s : String) : Bool :=
  s.toList.length == idPlaces.length && (idPlaces.zip s.toList).all fun (p, c) => p.admits c

end Targeting.Text
