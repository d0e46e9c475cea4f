import Targeting.Condition.Basic
import Targeting.Log

/-!
# Why a condition stays open

## Main definitions

* `Condition.Problem` — the reasons
* `Condition.Problem.key`, `Condition.Problem.message` — the stable name and the text of a reason
* `Condition.Problem.record` — the record of a reason
-/

namespace Targeting

namespace Condition

/-- Why a condition could not be decided for a user. -/
inductive Problem where
  /-- The user does not have the attribute. -/
  | missingAttribute (condition : Condition)
  /-- The user's attribute is null. -/
  | nullAttribute (condition : Condition)
  /-- The user's attribute is of a sort that does not fit. -/
  | unfitAttribute (condition : Condition) (kind : String)
  /-- The user's attribute is a number that cannot be compared exactly. -/
  | unsafeNumber (condition : Condition)
  /-- The condition's value does not fit its operator. -/
  | unfitValue (condition : Condition)
  /-- The condition's operator is not known. -/
  | unknownOperator (condition : Condition)
  /-- Nobody judges conditions of this kind. -/
  | unknownKind (condition : Condition)
  /-- A text that should be a version is none. -/
  | invalidVersion (condition : Condition) (version : String)
  /-- The judge of this kind of conditions has failed. -/
  | judgeFailed (kind : String) (message : String)

namespace Problem

/-- The stable name of a reason. -/
def key : Problem → String
  | missingAttribute _ => "MISSING_ATTRIBUTE_VALUE"
  | nullAttribute _ => "UNEXPECTED_TYPE_NULL"
  | unfitAttribute _ _ => "UNEXPECTED_TYPE"
  | unsafeNumber _ => "OUT_OF_BOUNDS"
  | unfitValue _ => "UNEXPECTED_CONDITION_VALUE"
  | unknownOperator _ => "UNKNOWN_MATCH_TYPE"
  | unknownKind _ => "UNKNOWN_CONDITION_TYPE"
  | invalidVersion _ _ => "INVALID_SEMANTIC_VERSION"
  | judgeFailed _ _ => "CONDITION_EVALUATOR_FAILED"

/-- The text that blames the user's attribute. -/
def attributeMessage (c : Condition) (before after : String) : String :=
  "audience condition " ++ c.text ++ " evaluated to UNKNOWN because " ++ before
    ++ " for user attribute \"" ++ c.name ++ "\"" ++ after

/-- The text that blames the condition. -/
def conditionMessage (c : Condition) (blame : String) : String :=
  "audience condition " ++ c.text ++ " " ++ blame
    ++ ". You may need to upgrade to a newer release of the SDK"

/-- The text of a reason. -/
def message : Problem → String
  | missingAttribute c => attributeMessage c "no value was passed" ""
  | nullAttribute c => attributeMessage c "a null value was passed" ""
  | unfitAttribute c kind =>
    attributeMessage c ("a value of type \"" ++ kind ++ "\" was passed") ""
  | unsafeNumber c =>
    attributeMessage c "the number value" " is not in the range [-2^53, +2^53]"
  | unfitValue c => conditionMessage c "has an unsupported condition value"
  | unknownOperator c => conditionMessage c "uses an unknown match type"
  | unknownKind c => conditionMessage c "uses an unknown condition type"
  | invalidVersion _ version => "\"" ++ version ++ "\" is not a valid semantic version"
  | judgeFailed kind message =>
    "condition evaluator for type \"" ++ kind ++ "\" failed: " ++ message

/-- Whether a reason is routine: many users do not have every attribute. -/
def isRoutine : Problem → Bool
  | missingAttribute _ => true
  | nullAttribute _ => true
  | _ => false

/-- The level at which a reason is reported. -/
def level (p : Problem) : Log.Level := if p.isRoutine then .debug else .warn

/-- The record of a reason. -/
def record (p : Problem) : Log.Record := ⟨p.level, p.message, [("message", p.key)]⟩

end Problem

end Condition

end Targeting
