import Targeting.Platform.Url.Host
import Targeting.Platform.Url.Path

/-!
# Addresses

An address has a scheme, usually an authority (who is asked, on which host and port), a path, and
perhaps a query and a fragment. Reading one brings all parts into their written form.

## Main definitions

* `Url` — addresses in their written form
* `Url.ofText` — the address that a text is
* `Url.withPairs` — an address with names and values added to its query
* `Url.text` — the text of an address
-/

namespace Targeting.Platform

/-- An address in its written form. The authority includes the slashes before it. -/
structure Url where
  scheme : List Char
  authority : List Char
  path : List Char
  query : Option (List Char)
  fragment : Option (List Char)
  deriving DecidableEq

namespace Url

/-! ### Authorities -/

/-- The written form of the name and the password of a user. -/
def userinfoText (cs : List Char) : List Char :=
  let name := encode inUserinfo (cs.takeWhile (· != ':'))
  let password := encode inUserinfo ((cs.dropWhile (· != ':')).drop 1)
  if name.isEmpty && password.isEmpty then []
  else name ++ (if password.isEmpty then [] else ':' :: password) ++ ['@']

/-- What stands before and after the last at sign. -/
def splitUserinfo (cs : List Char) : Option (List Char) × List Char :=
  let pieces := Text.splitOn (· == '@') cs
  match pieces.reverse with
  | host :: before :: rest => (some (Text.join '@' (before :: rest).reverse), host)
  | _ => (none, cs)

/-- What stands before and after the colon that is not in brackets. -/
def splitPort : (inBrackets : Bool) → List Char → List Char × Option (List Char)
  | _, [] => ([], none)
  | inBrackets, c :: cs =>
    if c == ':' && !inBrackets then ([], some cs)
    else
      let (host, port) := splitPort (c == '[' || (inBrackets && c != ']')) cs
      (c :: host, port)

/-- The written form of a port. The standard port of the scheme is left out. -/
def portText (scheme : String) : Option (List Char) → Except Flaw (List Char)
  | none => .ok []
  | some [] => .ok []
  | some digits =>
    match Text.ofDigits? 10 digits with
    | none => .error .invalidPort
    | some n =>
      if 65535 < n then .error .invalidPort
      else if standardPort scheme = some n then .ok []
      else .ok (':' :: Nat.toDigits 10 n)

/-- Whether an authority must name a host. -/
def needsHost (kind : SchemeKind) (userinfo port : Option (List Char)) : Bool :=
  kind.isSpecial || port.isSome || userinfo.any fun cs => cs.isEmpty || !(userinfoText cs).isEmpty

/-- The written form of an authority, with the slashes before it, and what is left of it: a
backslash ends the port, even where it does not stand for a slash. -/
def readAuthority (kind : SchemeKind) (scheme : String) (cs : List Char) :
    Except Flaw (List Char × List Char) := do
  let (userinfo, rest) := splitUserinfo cs
  let (host, port) := splitPort false rest
  let left := (port.map (·.dropWhile (· != '\\'))).getD []
  let port := port.map (·.takeWhile (· != '\\'))
  let user := (userinfo.map userinfoText).getD []
  if host.isEmpty && needsHost kind userinfo port then throw .emptyHost
  let host ← if host.isEmpty then pure [] else
    if kind.isSpecial then commonHost host else otherHost host
  let port ← portText scheme port
  return ("//".toList ++ user ++ host ++ port, left)

/-- The written form of the host of a file; the host of the machine itself is left out. -/
def fileHost (cs : List Char) : Except Flaw (List Char) := do
  if cs.isEmpty then return []
  let host ← commonHost cs
  return if host = "localhost".toList then [] else host

/-! ### Addresses -/

/-- The authority and the path behind the two slashes that an authority begins with. -/
def behindSlashes (kind : SchemeKind) (scheme : String) (cs : List Char) :
    Except Flaw (List Char × List Char) := do
  let isSlash := kind.isSlash
  let (authority, left) ← readAuthority kind scheme (cs.takeWhile (!isSlash ·))
  return (authority, authorityPath kind (left ++ cs.dropWhile (!isSlash ·)))

/-- The authority and the path of a file behind two slashes. A drive is no host, and a path that
begins with a drive has none. -/
def fileBehindSlashes (cs : List Char) : Except Flaw (List Char × List Char) := do
  let isSlash := SchemeKind.file.isSlash
  let host := unbroken (cs.takeWhile (!isSlash ·))
  let path := cs.dropWhile (!isSlash ·)
  if isDrive host then return ("//".toList, filePathText (.read .file cs))
  let host ← fileHost host
  if host.isEmpty then return ("//".toList, filePathText (.read .file path))
  let path := Path.read .file (path.drop 1)
  return ("//".toList ++ (if path.isLocal then [] else host), filePathText path)

/-- The authority and the path of a file. One slash is a part of the path, and two begin an
authority. -/
def fileLocation (cs : List Char) : Except Flaw (List Char × List Char) :=
  let isSlash := SchemeKind.file.isSlash
  let path (cs : List Char) := filePathText (.read .file cs)
  match cs.dropWhile isBreak with
  | [] => .ok ("//".toList, path [])
  | c :: rest =>
    let rest := rest.dropWhile isBreak
    if !isSlash c then .ok ("//".toList, path cs)
    else if rest.head?.any isSlash then fileBehindSlashes (rest.drop 1)
    else .ok ("//".toList, path rest)

/-- The authority and the path of an address behind its scheme. Breaks have a meaning in files only. -/
def splitLocation (kind : SchemeKind) (scheme : String) (cs : List Char) :
    Except Flaw (List Char × List Char) :=
  match kind with
  | .common => behindSlashes kind scheme ((unbroken cs).dropWhile kind.isSlash)
  | .file => fileLocation cs
  | .other =>
    match unbroken cs with
    | '/' :: '/' :: rest => behindSlashes kind scheme rest
    | '/' :: rest =>
      match pathText kind rest with
      | '/' :: '/' :: path => .ok ([], "/.//".toList ++ path)
      | path => .ok ([], path)
    | cs => .ok ([], encode inControl cs)

/-- The written form of a query. -/
def queryText (kind : SchemeKind) (cs : List Char) : List Char :=
  encode (if kind.isSpecial then inSpecialQuery else inQuery) (unbroken cs)

/-- The address that a sequence of characters is. -/
def ofChars (cs : List Char) : Except Flaw Url :=
  match scanScheme? (trimmed cs) with
  | none => .error .relativeWithoutBase
  | some (scheme, rest) => do
    let name := String.ofList scheme
    let kind := kindOf name
    let beforeFragment := rest.takeWhile (· != '#')
    let fragment := (rest.dropWhile (· != '#')).tail?
    let query := (beforeFragment.dropWhile (· != '?')).tail?
    let (authority, path) ← splitLocation kind name (beforeFragment.takeWhile (· != '?'))
    return { scheme, authority, path
             query := query.map (queryText kind)
             fragment := fragment.map (encode inFragment <| unbroken ·) }

/-- The address that a text is. -/
def ofText (s : String) : Except Flaw Url := ofChars s.toList

/-- The address with names and values added to its query. -/
def withPairs (url : Url) (pairs : List (String × String)) : Url :=
  let added := pairs.map fun (name, value) => formPair name value
  let before := match url.query with
    | some query => if query.isEmpty then [] else [query]
    | none => []
  { url with query := some (Text.join '&' (before ++ added)) }

/-- The characters of an address. -/
def chars (url : Url) : List Char :=
  url.scheme ++ ':' :: url.authority ++ url.path
    ++ (match url.query with | some query => '?' :: query | none => [])
    ++ (match url.fragment with | some fragment => '#' :: fragment | none => [])

/-- The text of an address. -/
def text (url : Url) : String := .ofList url.chars

end Url

end Targeting.Platform
