import Targeting.Condition.Problem
import Targeting.User

/-!
# Conditions on segments

A condition on a segment holds when the user is known to qualify for the segment that its value
names. There is one operator only.

## Main definitions

* `Condition.judgeSegment` — whether a condition on a segment holds
-/

namespace Targeting

namespace Condition

/-- The word for the only operator, which is also taken when a condition names none. -/
def qualified : String := "qualified"

/-- Whether a condition on a segment holds for a user; a value that is no text names no segment. -/
def judgeSegment (c : Condition) (user : User) : Except Problem Bool :=
  if c.operator.all (· == qualified) then .ok (c.value.text?.any user.isQualifiedFor)
  else .error (.unknownOperator c)

end Condition

end Targeting
