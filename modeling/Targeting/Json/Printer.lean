import Targeting.Json.Basic
import Targeting.Binary64.Text

/-!
# Compact JSON text

A value is written without blanks. In a text only the quote, the backslash and the control
characters below the space are escaped. A binary64 number that is not finite is written as null.

## Main definitions

* `Json.escape`, `Json.quote` — a character, and a text, in a written text
* `Json.write`, `Json.text` — the text of a value
-/

namespace Targeting

namespace Json

/-- The letters of a digit in base sixteen. -/
def hexDigit (n : Nat) : Char := Nat.digitChar n

/-- A character as it stands in a written text. -/
def escape (c : Char) : List Char :=
  if c = '"' then ['\\', '"']
  else if c = '\\' then ['\\', '\\']
  else if c = '\n' then ['\\', 'n']
  else if c = '\r' then ['\\', 'r']
  else if c = '\t' then ['\\', 't']
  else if c = '\x08' then ['\\', 'b']
  else if c = '\x0c' then ['\\', 'f']
  else if c.toNat < 0x20 then
    ['\\', 'u', '0', '0', hexDigit (c.toNat / 16), hexDigit (c.toNat % 16)]
  else [c]

/-- The characters of a quoted text. -/
def quoteChars (cs : List Char) : List Char := '"' :: (cs.flatMap escape ++ ['"'])

/-- A quoted text. -/
def quote (s : String) : List Char := quoteChars s.toList

/-- The text of a number. -/
def writeNumber : Number → List Char
  | .int n => (toString n).toList
  | .float x => (x.text?.getD "null").toList

mutual

/-- The characters of a value. -/
def write : Json → List Char
  | .null => ['n', 'u', 'l', 'l']
  | .bool true => ['t', 'r', 'u', 'e']
  | .bool false => ['f', 'a', 'l', 's', 'e']
  | .num n => writeNumber n
  | .str s => quote s
  | .arr [] => ['[', ']']
  | .arr (v :: vs) => '[' :: (write v ++ writeItems vs)
  | .obj [] => ['{', '}']
  | .obj ((k, v) :: fs) => '{' :: (quote k ++ ':' :: (write v ++ writeFields fs))

/-- The characters of the further items of a list, and of its end. -/
def writeItems : List Json → List Char
  | [] => [']']
  | v :: vs => ',' :: (write v ++ writeItems vs)

/-- The characters of the further fields of an object, and of its end. -/
def writeFields : List (String × Json) → List Char
  | [] => ['}']
  | (k, v) :: fs => ',' :: (quote k ++ ':' :: (write v ++ writeFields fs))

end

/-- The text of a value. -/
def text (v : Json) : String := .ofList v.write

end Json

end Targeting
