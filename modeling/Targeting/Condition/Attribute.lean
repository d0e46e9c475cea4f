import Targeting.Condition.Problem
import Targeting.Text.Infix
import Targeting.Truth
import Targeting.User
import Targeting.Version.Order

/-!
# Conditions on attributes

A condition on an attribute compares the user's value with the condition's by one of twelve
operators. What cannot be compared is a problem: first the operator has to be known, then the
attribute has to be present, then the condition's value has to fit the operator, and last the user's
value has to fit the condition's.

## Main definitions

* `Condition.Operator` — the operators
* `Condition.judgeAttribute` — whether a condition on an attribute holds
-/

namespace Targeting

namespace Condition

/-- The ways to compare numbers and versions. -/
inductive Comparison where
  | gt
  | ge
  | lt
  | le
  deriving DecidableEq

/-- Whether a comparison accepts a user's value that stands so to the condition's. -/
def Comparison.accepts : Comparison → Ordering → Bool
  | gt, o => o == .gt
  | ge, o => o != .lt
  | lt, o => o == .lt
  | le, o => o != .gt

/-- The operators of conditions on attributes. -/
inductive Operator where
  | exact
  | exists
  | number (comparison : Comparison)
  | substring
  | sameVersion
  | version (comparison : Comparison)
  deriving DecidableEq

namespace Operator

/-- The word for an operator. -/
def text : Operator → String
  | exact => "exact"
  | .exists => "exists"
  | number .gt => "gt"
  | number .ge => "ge"
  | number .lt => "lt"
  | number .le => "le"
  | substring => "substring"
  | sameVersion => "semver_eq"
  | version .gt => "semver_gt"
  | version .ge => "semver_ge"
  | version .lt => "semver_lt"
  | version .le => "semver_le"

/-- The operator that a word names. -/
def ofText? : String → Option Operator
  | "exact" => some exact
  | "exists" => some .exists
  | "gt" => some (number .gt)
  | "ge" => some (number .ge)
  | "lt" => some (number .lt)
  | "le" => some (number .le)
  | "substring" => some substring
  | "semver_eq" => some sameVersion
  | "semver_gt" => some (version .gt)
  | "semver_ge" => some (version .ge)
  | "semver_lt" => some (version .lt)
  | "semver_le" => some (version .le)
  | _ => none

/-- The operator of a condition that names none. -/
def standard : Operator := exact

@[simp] theorem ofText?_text (op : Operator) : ofText? op.text = some op := by
  rcases op with _ | _ | (_ | _ | _ | _) | _ | _ | (_ | _ | _ | _) <;> rfl

end Operator

/-- The operator of a condition on an attribute; none if its word is not known. -/
def operator? (c : Condition) : Option Operator :=
  match c.operator with
  | none => some .standard
  | some word => Operator.ofText? word

/-- The condition's value as a text. -/
def wantedText (c : Condition) : Except Problem String :=
  match c.value with
  | .text s => .ok s
  | _ => .error (.unfitValue c)

/-- The condition's value as a number that can be compared exactly. -/
def wantedNumber (c : Condition) : Except Problem Binary64 :=
  match c.value with
  | .number x => if x.isSafe then .ok x else .error (.unfitValue c)
  | _ => .error (.unfitValue c)

/-- The problem with a user's value that is of another sort than the condition's. -/
def mismatch (c : Condition) : Attribute → Problem
  | .null => .nullAttribute c
  | value => .unfitAttribute c value.kind

/-- The user's value as a text. -/
def actualText (c : Condition) : Attribute → Except Problem String
  | .text s => .ok s
  | value => .error (c.mismatch value)

/-- The user's value as a number that can be compared exactly. -/
def actualNumber (c : Condition) : Attribute → Except Problem Binary64
  | .number x => if x.isSafe then .ok x else .error (.unsafeNumber c)
  | value => .error (c.mismatch value)

/-- The user's value as a boolean. -/
def actualBoolean (c : Condition) : Attribute → Except Problem Bool
  | .boolean b => .ok b
  | value => .error (c.mismatch value)

/-- Whether the user's value is the condition's, which is a text, a boolean or a number. -/
def judgeExact (c : Condition) (value : Attribute) : Except Problem Bool :=
  match c.value with
  | .text wanted => return (← c.actualText value) == wanted
  | .boolean wanted => return (← c.actualBoolean value) == wanted
  | _ => do
    let wanted ← c.wantedNumber
    let actual ← c.actualNumber value
    return actual.sameValue wanted

/-- Whether the user's number stands to the condition's as asked. -/
def judgeNumber (c : Condition) (comparison : Comparison) (value : Attribute) :
    Except Problem Bool := do
  let wanted ← c.wantedNumber
  let actual ← c.actualNumber value
  return (actual.compare? wanted).any comparison.accepts

/-- Whether the condition's text occurs in the user's. -/
def judgeSubstring (c : Condition) (value : Attribute) : Except Problem Bool := do
  let wanted ← c.wantedText
  let actual ← c.actualText value
  return Text.occurs wanted.toList actual.toList

/-- Whether the user's version stands to the condition's as asked. -/
def judgeVersion (c : Condition) (accepts : Ordering → Bool) (value : Attribute) :
    Except Problem Bool := do
  let wanted ← c.wantedText
  let actual ← c.actualText value
  match Version.order wanted actual with
  | .ok place => return accepts place
  | .error version => throw (.invalidVersion c version)

/-- Whether a condition holds for the value of a present attribute. -/
def judgeValue (c : Condition) (op : Operator) (value : Attribute) : Except Problem Bool :=
  match op with
  | .exact => c.judgeExact value
  | .exists => return !value.isNull
  | .number comparison => c.judgeNumber comparison value
  | .substring => c.judgeSubstring value
  | .sameVersion => c.judgeVersion (· == .eq) value
  | .version comparison => c.judgeVersion comparison.accepts value

/-- Whether a condition on an attribute holds for a user. Only the question whether the attribute
exists can be answered without it. -/
def judgeAttribute (c : Condition) (user : User) : Except Problem Bool :=
  match c.operator? with
  | none => .error (.unknownOperator c)
  | some op =>
    match user.attribute? c.name with
    | some value => c.judgeValue op value
    | none => if op = .exists then .ok false else .error (.missingAttribute c)

end Condition

end Targeting
