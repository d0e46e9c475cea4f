import Targeting.Text.Digits

/-!
# Percent encoding

A character that an address may not hold in some place is written as its bytes, each as a percent
sign and two digits in base sixteen. Which characters these are depends on the place.

## Main definitions

* `Url.encode` — a text for a place of an address
* `Url.decode` — the bytes that an encoded text stands for
* `Url.inControl`, `Url.inFragment`, `Url.inQuery`, `Url.inSpecialQuery`, `Url.inPath`,
  `Url.inUserinfo` — what is encoded in the places of an address
* `Url.formEncode`, `Url.formPair` — names and values of a query
-/

namespace Targeting.Platform.Url

/-- A digit in base sixteen, in upper case. -/
def hexUpper (n : Nat) : Char := (Nat.digitChar n).toUpper

/-- A byte behind a percent sign. -/
def percent (b : UInt8) : List Char := ['%', hexUpper (b.toNat / 16), hexUpper (b.toNat % 16)]

/-- The bytes of a character behind percent signs. -/
def percentChar (c : Char) : List Char := (String.utf8EncodeChar c).flatMap percent

/-- A text with some characters encoded. -/
def encode (encoded : Char → Bool) (cs : List Char) : List Char :=
  cs.flatMap fun c => if encoded c then percentChar c else [c]

/-- The bytes of a text in which percent signs may stand before encoded bytes. -/
def decode : List Char → List UInt8
  | [] => []
  | '%' :: a :: b :: cs =>
    match Text.hexValue? a, Text.hexValue? b with
    | some m, some n => .ofNat (16 * m + n) :: decode cs
    | _, _ => 0x25 :: decode (a :: b :: cs)
  | c :: cs => String.utf8EncodeChar c ++ decode cs

/-! ### Places of an address -/

/-- Control characters, and all that is not in ASCII. -/
def inControl (c : Char) : Bool := c.toNat < 0x20 || 0x7E < c.toNat

/-- What is encoded behind the hash sign. -/
def inFragment (c : Char) : Bool := inControl c || [' ', '"', '<', '>', '\x60'].contains c

/-- What is encoded in a query. -/
def inQuery (c : Char) : Bool := inControl c || [' ', '"', '#', '<', '>'].contains c

/-- What is encoded in a query of one of the common schemes. -/
def inSpecialQuery (c : Char) : Bool := inQuery c || c == '\''

/-- What is encoded in a path. -/
def inPath (c : Char) : Bool := inFragment c || ['#', '?', '\x7b', '\x7d'].contains c

/-- What is encoded in the name and the password of a user. -/
def inUserinfo (c : Char) : Bool :=
  inPath c || ['/', ':', ';', '=', '@', '[', '\\', ']', '^', '|'].contains c

/-! ### Forms -/

/-- Whether a character stands for itself in a form. -/
def isFormSafe (c : Char) : Bool := c.isAlphanum || ['*', '-', '.', '_'].contains c

/-- A text in a form; a space is a plus sign. -/
def formEncode (cs : List Char) : List Char :=
  cs.flatMap fun c => if isFormSafe c then [c] else if c = ' ' then ['+'] else percentChar c

/-- A name with its value in a form. -/
def formPair (name value : String) : List Char :=
  formEncode name.toList ++ '=' :: formEncode value.toList

end Targeting.Platform.Url
