import Targeting.Audience.Basic
import Targeting.Condition.Problem
import Targeting.Truth

/-!
# What is said about audiences

## Main definitions

* `Audience.Notice`, `Audience.Notice.record` — the notices, and their records
-/

namespace Targeting

namespace Audience

/-- What is said while audiences are judged. -/
inductive Notice where
  /-- There is no audience with this id. -/
  | notFound (id : String)
  /-- The audience with this id is going to be judged. -/
  | started (id : String) (audience : Audience)
  /-- A condition stays open. -/
  | problem (p : Condition.Problem)
  /-- The audience with this id has been judged. -/
  | judged (id : String) (answer : Truth)
  /-- A judge was given for a kind of conditions that needs none. -/
  | ignoredJudge (kind : String)

/-- The record of a notice. -/
def Notice.record : Notice → Log.Record
  | notFound id => ⟨.debug, "audience not found, evaluating to UNKNOWN", [("audience_id", id)]⟩
  | started id audience =>
    ⟨.debug, "starting to evaluate audience \"" ++ id ++ "\" with conditions: "
      ++ audience.conditionsText, [("audience_id", id)]⟩
  | problem p => p.record
  | judged id answer =>
    ⟨.info, "audience \"" ++ id ++ "\" evaluated to " ++ answer.text,
      [("audience_id", id), ("result", answer.text)]⟩
  | ignoredJudge kind =>
    ⟨.warn, "ignoring custom evaluator for built-in condition type", [("condition_type", kind)]⟩

end Audience

end Targeting
