import Targeting.Json.Basic

/-!
# Users

A user has an id, attributes by name, and the segments that the user was found to qualify for, once
these are known. An attribute that is present and null differs from a missing one.

## Main definitions

* `Attribute` — the values of attributes
* `User` — users
* `User.isQualifiedFor` — whether a user is known to qualify for a segment
-/

namespace Targeting

/-- The value of a user's attribute. -/
inductive Attribute where
  | text (s : String)
  | number (x : Binary64)
  | boolean (b : Bool)
  | null
  deriving DecidableEq

namespace Attribute

/-- The word for the sort of a value. -/
def kind : Attribute → String
  | text _ => "string"
  | number _ => "number"
  | boolean _ => "boolean"
  | null => "null"

/-- The place of a sort among the sorts. -/
def rank : Attribute → Nat
  | text _ => 0
  | number _ => 1
  | boolean _ => 2
  | null => 3

/-- Whether a value is null. -/
def isNull : Attribute → Bool
  | null => true
  | _ => false

/-- Order by sort, and within a sort by value. A number that is none compares with no number. -/
def compare? : Attribute → Attribute → Option Ordering
  | text s, text t => some (compare s t)
  | number x, number y => x.compare? y
  | boolean a, boolean b => some (compare a b)
  | a, b => some (compare a.rank b.rank)

/-- Equality, where numbers are equal when their values are. -/
def same (a b : Attribute) : Bool :=
  match a, b with
  | text s, text t => s == t
  | number x, number y => x.sameValue y
  | boolean a, boolean b => a == b
  | null, null => true
  | _, _ => false

/-- The scalar that a value is in JSON. -/
def toJson : Attribute → Json
  | text s => .str s
  | number x => .float x
  | boolean b => .bool b
  | null => .null

/-- The attribute that a scalar is. -/
def ofJson? : Json → Option Attribute
  | .str s => some (text s)
  | .num n => some (number n.size)
  | .bool b => some (boolean b)
  | .null => some null
  | _ => none

end Attribute

/-- Someone about whom questions are asked. The segments are absent until they are known. -/
structure User where
  id : String
  attributes : List (String × Attribute) := []
  segments : Option (List String) := none

namespace User

/-- The value of an attribute, if it is present. -/
def attribute? (user : User) (name : String) : Option Attribute := user.attributes.lookup name

/-- The user with one attribute set. -/
def withAttribute (user : User) (name : String) (value : Attribute) : User :=
  { user with attributes := (name, value) :: user.attributes.filter (·.1 != name) }

/-- The user with all attributes replaced. -/
def withAttributes (user : User) (attributes : List (String × Attribute)) : User :=
  { user with attributes := [] } |> attributes.foldl fun user (name, value) =>
    user.withAttribute name value

/-- A segment among others, each of which is listed once and in order. -/
def insertSegment (segment : String) : List String → List String
  | [] => [segment]
  | s :: rest =>
    if segment < s then segment :: s :: rest
    else if segment = s then s :: rest
    else s :: insertSegment segment rest

/-- The user with known segments, or with segments that are not known. -/
def setSegments (user : User) (segments : Option (List String)) : User :=
  { user with segments := segments.map (·.foldr insertSegment []) }

/-- Whether the user is known to qualify for a segment. -/
def isQualifiedFor (user : User) (segment : String) : Bool :=
  match user.segments with
  | some segments => segments.contains segment
  | none => false

end User

end Targeting
