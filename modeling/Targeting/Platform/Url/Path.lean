import Targeting.Platform.Url.Percent
import Targeting.Platform.Url.Scheme
import Targeting.Text.Pieces

/-!
# Paths

A path is made up of parts with slashes between them. Steps up and steps in place are taken when it
is read. The path of a file may begin with a drive, which no step leaves.

## Main definitions

* `Url.Path` — a path up to some place
* `Url.Path.add`, `Url.Path.read` — a path with another part, and the path that a text is
* `Url.pathText`, `Url.filePathText` — the written form of a path
-/

namespace Targeting.Platform.Url

/-! ### Parts -/

/-- Whether a part of a path means the directory above. -/
def isUp (part : List Char) : Bool :=
  ["..", ".%2e", "%2e.", "%2e%2e"].contains (String.ofList (part.map Char.toLower))

/-- Whether a part of a path means the same directory. -/
def isHere (part : List Char) : Bool :=
  [".", "%2e"].contains (String.ofList (part.map Char.toLower))

/-- Whether a part of a path is a drive: a letter with a colon or a bar. -/
def isDrive : List Char → Bool
  | [c, d] => c.isAlpha && (d == ':' || d == '|')
  | _ => false

/-- A drive that a part begins with, if there is a break directly behind its colon, and the rest of
the part, if there is any. -/
def brokenDrive? (part : List Char) : Option (List Char × List Char) :=
  match part.dropWhile isBreak with
  | letter :: rest =>
    match rest.dropWhile isBreak with
    | ':' :: c :: rest =>
      let rest := unbroken rest
      if letter.isAlpha && isBreak c && !rest.isEmpty then some ([letter, ':'], rest) else none
    | _ => none
  | [] => none

/-! ### Reading -/

/-- A path up to some place. -/
structure Path where
  /-- The parts in their written form, the last one first. -/
  parts : List (List Char) := []
  /-- Whether the path begins with a drive of this machine, so that no host is asked for it. -/
  isLocal : Bool := false

namespace Path

/-- The path above, unless the last part is a drive. -/
def up (path : Path) : Path :=
  match path.parts with
  | [] => path
  | part :: before => if isDrive part then path else { path with parts := before }

/-- The path after a step; at the end an empty part follows the step. -/
def stepped (isLast : Bool) (path : Path) : Path :=
  if isLast then { path with parts := [] :: path.parts } else path

/-- The path with another part. The drive that the path of a file begins with has a colon. A break
behind the drive ends it, and the rest of the part is a part of its own, even if it looks like a
step. -/
def add (kind : SchemeKind) (isLast : Bool) (path : Path) (part : List Char) : Path :=
  let isFirst := kind = .file && path.parts.isEmpty
  match if isFirst then brokenDrive? part else none with
  | some (drive, rest) => { path with parts := [encode inPath rest, drive] }
  | none =>
    let part := encode inPath (unbroken part)
    if isUp part then path.up.stepped isLast
    else if isHere part then path.stepped isLast
    else if isFirst && isDrive part then { parts := [part.take 1 ++ [':']], isLocal := true }
    else { path with parts := part :: path.parts }

/-- The path with some more parts. -/
def walk (kind : SchemeKind) : Path → List (List Char) → Path
  | path, [] => path
  | path, part :: parts => walk kind (path.add kind parts.isEmpty part) parts

/-- The path that a text is. -/
def read (kind : SchemeKind) (cs : List Char) : Path := walk kind {} (Text.splitOn kind.isSlash cs)

end Path

/-! ### Writing -/

/-- The written form of a path behind its first slash. -/
def pathText (kind : SchemeKind) (cs : List Char) : List Char :=
  '/' :: Text.join '/' (Path.read kind cs).parts.reverse

/-- The written form of the path of a file, which does not begin with empty parts. -/
def filePathText (path : Path) : List Char :=
  '/' :: Text.join '/' (path.parts.reverse.dropWhile List.isEmpty)

/-- The written form of a path behind an authority. -/
def authorityPath (kind : SchemeKind) (cs : List Char) : List Char :=
  match cs with
  | [] => if kind.isSpecial then ['/'] else []
  | c :: rest => pathText kind (if kind.isSlash c then rest else c :: rest)

end Targeting.Platform.Url
