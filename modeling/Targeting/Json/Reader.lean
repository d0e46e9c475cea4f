import Targeting.Json.Number
import Targeting.Text.Digits

/-!
# Reading JSON text

Reading has two steps. The first one checks the grammar and nothing else: its result, a raw value,
still holds texts with an unpaired surrogate, numbers that are too great and repeated names. The
second one demands what is missing of the parts that are looked at, so that a part that nobody looks
at need only follow the grammar.

## Main definitions

* `Raw` — values of which only the grammar is known
* `Raw.read?` — the raw value of a text
* `Raw.value?` — the value of a raw one, if everything in it can be read
* `Json.read?` — the value of a text
-/

namespace Targeting

/-- A value of which only the grammar is known. A number that is too great and a text with an
unpaired surrogate are absent; names may repeat. -/
inductive Raw where
  | null
  | bool (b : Bool)
  | num (n : Option Number)
  | str (s : Option String)
  | arr (items : List Raw)
  | obj (fields : List (Option String × Raw))

namespace Raw

/-- The blanks between the parts of a value. -/
def isBlank (c : Char) : Bool := c = ' ' || c = '\t' || c = '\n' || c = '\r'

/-- A text without its leading blanks. -/
def skipBlanks (cs : List Char) : List Char := cs.dropWhile isBlank

/-! ### Texts -/

/-- A part of a quoted text: a character, or a sixteen-bit unit given by its number. -/
inductive Piece where
  | char (c : Char)
  | unit (n : Nat)

/-- The unit given by four digits in base sixteen. -/
def unit? (a b c d : Char) : Option Nat := do
  let a ← Text.hexValue? a
  let b ← Text.hexValue? b
  let c ← Text.hexValue? c
  let d ← Text.hexValue? d
  return ((a * 16 + b) * 16 + c) * 16 + d

/-- The character that a letter after a backslash stands for. -/
def unescape? : Char → Option Char
  | '"' => some '"'
  | '\\' => some '\\'
  | '/' => some '/'
  | 'b' => some '\x08'
  | 'f' => some '\x0c'
  | 'n' => some '\n'
  | 'r' => some '\r'
  | 't' => some '\t'
  | _ => none

/-- The parts of a text up to its closing quote, and what follows it. -/
def scanPieces : List Char → Option (List Piece × List Char)
  | [] => none
  | '"' :: cs => some ([], cs)
  | '\\' :: 'u' :: a :: b :: c :: d :: cs => do
    let n ← unit? a b c d
    let (pieces, rest) ← scanPieces cs
    return (.unit n :: pieces, rest)
  | '\\' :: e :: cs => do
    let c ← unescape? e
    let (pieces, rest) ← scanPieces cs
    return (.char c :: pieces, rest)
  | c :: cs =>
    -- Control characters have to be escaped.
    if c.toNat < 0x20 then none
    else do
      let (pieces, rest) ← scanPieces cs
      return (.char c :: pieces, rest)

/-- Whether a unit is the first of a pair. -/
def isHigh (n : Nat) : Bool := 0xD800 ≤ n && n < 0xDC00

/-- Whether a unit is the second of a pair. -/
def isLow (n : Nat) : Bool := 0xDC00 ≤ n && n < 0xE000

/-- The characters of the parts of a text; none if a unit of a pair stands alone. -/
def join? : List Piece → Option (List Char)
  | [] => some []
  | .char c :: ps => (join? ps).map (c :: ·)
  | .unit m :: .unit n :: ps =>
    if isHigh m && isLow n then
      (join? ps).map (Char.ofNat (0x10000 + (m - 0xD800) * 0x400 + (n - 0xDC00)) :: ·)
    else if isHigh m || isLow m then none
    -- The second unit may be the first one of a pair with what follows.
    else (join? (.unit n :: ps)).map (Char.ofNat m :: ·)
  | .unit m :: ps =>
    if isHigh m || isLow m then none else (join? ps).map (Char.ofNat m :: ·)

/-- The text up to its closing quote, and what follows it. -/
def scanText? (cs : List Char) : Option (Option String × List Char) := do
  let (pieces, rest) ← scanPieces cs
  return ((join? pieces).map .ofList, rest)

/-! ### Values -/

mutual

/-- The value at the start of a text, and what follows it. -/
def scanValue? : (fuel : Nat) → List Char → Option (Raw × List Char)
  | 0, _ => none
  | fuel + 1, cs =>
    match skipBlanks cs with
    | 'n' :: 'u' :: 'l' :: 'l' :: rest => some (.null, rest)
    | 't' :: 'r' :: 'u' :: 'e' :: rest => some (.bool true, rest)
    | 'f' :: 'a' :: 'l' :: 's' :: 'e' :: rest => some (.bool false, rest)
    | '"' :: rest => do
      let (s, rest) ← scanText? rest
      return (.str s, rest)
    | '[' :: rest =>
      match skipBlanks rest with
      | ']' :: rest => some (.arr [], rest)
      | rest => do
        let (items, rest) ← scanItems? fuel rest
        return (.arr items, rest)
    | '{' :: rest =>
      match skipBlanks rest with
      | '}' :: rest => some (.obj [], rest)
      | rest => do
        let (fields, rest) ← scanFields? fuel rest
        return (.obj fields, rest)
    | cs => do
      let (n, rest) ← NumberText.scan? cs
      return (.num n.value?, rest)

/-- The items of a list up to its end, of which there is at least one. -/
def scanItems? : (fuel : Nat) → List Char → Option (List Raw × List Char)
  | 0, _ => none
  | fuel + 1, cs => do
    let (v, rest) ← scanValue? fuel cs
    match skipBlanks rest with
    | ']' :: rest => return ([v], rest)
    | ',' :: rest => do
      let (vs, rest) ← scanItems? fuel rest
      return (v :: vs, rest)
    | _ => none

/-- The fields of an object up to its end, of which there is at least one. -/
def scanFields? : (fuel : Nat) → List Char → Option (List (Option String × Raw) × List Char)
  | 0, _ => none
  | fuel + 1, cs => do
    match skipBlanks cs with
    | '"' :: rest =>
      let (name, rest) ← scanText? rest
      match skipBlanks rest with
      | ':' :: rest =>
        let (v, rest) ← scanValue? fuel rest
        match skipBlanks rest with
        | '}' :: rest => return ([(name, v)], rest)
        | ',' :: rest =>
          let (fs, rest) ← scanFields? fuel rest
          return ((name, v) :: fs, rest)
        | _ => none
      | _ => none
    | _ => none

end

/-- The raw value of a text, which it must fill but for blanks. Every second step of reading takes a
character, so twice the length is enough fuel. -/
def readChars? (cs : List Char) : Option Raw := do
  let (v, rest) ← scanValue? (2 * cs.length + 2) cs
  if (skipBlanks rest).isEmpty then some v else none

/-- The raw value of a text. -/
def read? (text : String) : Option Raw := readChars? text.toList

/-! ### Strict values -/

/-- How many lists and objects may stand inside one another. -/
def deepest : Nat := 127

mutual

/-- The value of a raw one: every text and every number in it must be readable, and at most `depth`
lists and objects may be nested. -/
def value? : (depth : Nat) → Raw → Option Json
  | _, .null => some .null
  | _, .bool b => some (.bool b)
  | _, .num n => n.map .num
  | _, .str s => s.map .str
  | 0, .arr _ => none
  | depth + 1, .arr items => (values? depth items).map .arr
  | 0, .obj _ => none
  | depth + 1, .obj fields =>
    (fieldValues? depth fields).map fun fields => .obj (Json.sortFields fields)

/-- The values of several raw ones. -/
def values? : (depth : Nat) → List Raw → Option (List Json)
  | _, [] => some []
  | depth, r :: rs => do
    let v ← value? depth r
    let vs ← values? depth rs
    return v :: vs

/-- The names and values of raw fields. -/
def fieldValues? : (depth : Nat) → List (Option String × Raw) → Option (List (String × Json))
  | _, [] => some []
  | depth, (name, r) :: rs => do
    let name ← name
    let v ← value? depth r
    let vs ← fieldValues? depth rs
    return (name, v) :: vs

end

end Raw

namespace Json

/-- The value of a text. -/
def read? (text : String) : Option Json := do
  let raw ← Raw.read? text
  raw.value? Raw.deepest

end Json

end Targeting
