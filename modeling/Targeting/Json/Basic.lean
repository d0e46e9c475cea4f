import Targeting.Binary64.Basic

/-!
# JSON values

A number keeps whether it was a whole number or a binary64 number: `1` and `1.0` are different
values with the same size. The fields of an object are listed in the order in which they are
written; an object that was read lists them in the order of their names, each once.

## Main definitions

* `Number`, `Number.size` — numbers and their sizes
* `Json` — values
* `Json.same` — equality, where binary64 numbers are equal when their values are
* `Json.insertField` — fields in the order of their names
-/

namespace Targeting

/-- A JSON number. -/
inductive Number where
  | int (n : Int)
  | float (x : Binary64)
  deriving DecidableEq

namespace Number

/-- The binary64 number nearest to a number. -/
def size : Number → Binary64
  | int n => .ofInt n
  | float x => x

/-- Equality of numbers of the same sort. -/
def same : Number → Number → Bool
  | int m, int n => m == n
  | float x, float y => x.sameValue y
  | _, _ => false

end Number

/-- A JSON value. -/
inductive Json where
  | null
  | bool (b : Bool)
  | num (n : Number)
  | str (s : String)
  | arr (items : List Json)
  | obj (fields : List (String × Json))

namespace Json

/-- A whole number. -/
def int (n : Int) : Json := .num (.int n)

/-- A natural number. -/
def nat (n : Nat) : Json := .num (.int n)

/-- A binary64 number. -/
def float (x : Binary64) : Json := .num (.float x)

/-- A text, or null. -/
def ofText? : Option String → Json
  | some s => .str s
  | none => .null

/-- A list of texts. -/
def texts (ss : List String) : Json := .arr (ss.map .str)

mutual

/-- Equality of values; the fields of two objects are compared in order. -/
def same : Json → Json → Bool
  | .null, .null => true
  | .bool a, .bool b => a == b
  | .num m, .num n => m.same n
  | .str s, .str t => s == t
  | .arr xs, .arr ys => sameItems xs ys
  | .obj fs, .obj gs => sameFields fs gs
  | _, _ => false

/-- Equality of lists of values. -/
def sameItems : List Json → List Json → Bool
  | [], [] => true
  | x :: xs, y :: ys => same x y && sameItems xs ys
  | _, _ => false

/-- Equality of lists of fields. -/
def sameFields : List (String × Json) → List (String × Json) → Bool
  | [], [] => true
  | (k, x) :: fs, (l, y) :: gs => k == l && same x y && sameFields fs gs
  | _, _ => false

end

/-- Puts a field in its place among fields ordered by name; a field of the same name is
replaced. -/
def insertField (name : String) (value : Json) :
    List (String × Json) → List (String × Json)
  | [] => [(name, value)]
  | (n, v) :: rest =>
    if name < n then (name, value) :: (n, v) :: rest
    else if name = n then (name, value) :: rest
    else (n, v) :: insertField name value rest

/-- Fields in the order of their names; the last of several fields of one name counts. -/
def sortFields (fields : List (String × Json)) : List (String × Json) :=
  fields.foldl (fun sorted field => insertField field.1 field.2 sorted) []

/-! ### Views -/

/-- The text of a text value. -/
def text? : Json → Option String
  | .str s => some s
  | _ => none

/-- The boolean of a boolean value. -/
def bool? : Json → Option Bool
  | .bool b => some b
  | _ => none

/-- The items of a list value. -/
def items? : Json → Option (List Json)
  | .arr items => some items
  | _ => none

/-- The fields of an object value. -/
def fields? : Json → Option (List (String × Json))
  | .obj fields => some fields
  | _ => none

/-- Whether a value is a text, a number or a boolean, or null. -/
def isScalar : Json → Bool
  | .arr _ => false
  | .obj _ => false
  | _ => true

end Json

end Targeting
