import Targeting.Platform.Url.Flaw

/-!
# Schemes

An address begins with the name of its scheme. The scheme tells how the rest is read.

Tabs and line breaks have no meaning in an address, wherever they stand. Such a break is passed
over, and only in the path of a file it makes a difference.

## Main definitions

* `Url.SchemeKind` — how the rest of an address is read
* `Url.scanScheme?` — the scheme of an address
* `Url.unbroken` — a text without breaks
-/

namespace Targeting.Platform.Url

/-! ### Breaks -/

/-- Whether a character is a tab or breaks the line. -/
def isBreak (c : Char) : Bool := c == '\t' || c == '\n' || c == '\r'

/-- The text without breaks. -/
def unbroken (cs : List Char) : List Char := cs.filter (!isBreak ·)

/-- The text without control characters and spaces at its ends. -/
def trimmed (cs : List Char) : List Char :=
  let isEdge (c : Char) : Bool := c.toNat ≤ 0x20
  ((cs.dropWhile isEdge).reverse.dropWhile isEdge).reverse

/-! ### Schemes -/

/-- How the rest of an address is read. -/
inductive SchemeKind where
  /-- A common scheme, whose addresses have a host. -/
  | common
  /-- The scheme of files, whose host may be missing. -/
  | file
  /-- Any other scheme. -/
  | other
  deriving DecidableEq

/-- How the rest of an address with a scheme is read. -/
def kindOf (scheme : String) : SchemeKind :=
  if scheme = "file" then .file
  else if ["http", "https", "ws", "wss", "ftp"].contains scheme then .common
  else .other

/-- The port of a scheme that need not be written. -/
def standardPort : String → Option Nat
  | "http" => some 80
  | "https" => some 443
  | "ws" => some 80
  | "wss" => some 443
  | "ftp" => some 21
  | _ => none

/-- Whether a backslash stands for a slash. -/
def SchemeKind.isSpecial : SchemeKind → Bool
  | other => false
  | _ => true

/-- Whether a character separates the parts of a path. -/
def SchemeKind.isSlash (kind : SchemeKind) (c : Char) : Bool :=
  c == '/' || (kind.isSpecial && c == '\\')

/-- Whether a character may follow the first letter of a scheme. -/
def isSchemeChar (c : Char) : Bool := c.isAlphanum || c == '+' || c == '-' || c == '.'

/-- The scheme in front of a colon, in lower case, and what follows the colon. -/
def scanScheme? (cs : List Char) : Option (List Char × List Char) :=
  let scheme := unbroken (cs.takeWhile (· != ':'))
  match cs.dropWhile (· != ':') with
  | _ :: rest =>
    if scheme.head?.any Char.isAlpha && scheme.all isSchemeChar then
      some (scheme.map Char.toLower, rest)
    else none
  | [] => none

end Targeting.Platform.Url
