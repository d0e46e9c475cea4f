/-!
# Three-valued truth

The answer to a question about a user is *yes*, *no*, or *unknown* when the question cannot be
decided (an attribute is missing, a type does not fit, an operator is not known). Unknown is not a
kind of no: it travels through the connectives and collapses to no only where a definite answer is
demanded (`Truth.holds`).

## Main definitions

* `Truth` — the three answers
* `Truth.and`, `Truth.or`, `Truth.not` — strong three-valued connectives
* `Truth.ofOption`, `Truth.toOption` — the encoding of unknown as an absent boolean
-/

namespace Targeting

/-- An answer that may be open. -/
inductive Truth where
  | yes
  | no
  | unknown
  deriving DecidableEq

namespace Truth

/-- Conjunction: a single no decides it, and otherwise a single unknown leaves it open. -/
def and : Truth → Truth → Truth
  | no, _ => no
  | _, no => no
  | yes, yes => yes
  | _, _ => unknown

/-- Disjunction: a single yes decides it, and otherwise a single unknown leaves it open. -/
def or : Truth → Truth → Truth
  | yes, _ => yes
  | _, yes => yes
  | no, no => no
  | _, _ => unknown

/-- Negation exchanges yes and no and keeps unknown. -/
def not : Truth → Truth
  | yes => no
  | no => yes
  | unknown => unknown

/-- Whether the answer is a definite yes. -/
def holds (t : Truth) : Bool := t == yes

/-- Whether the answer is open. -/
def isUnknown (t : Truth) : Bool := t == unknown

/-- The answer that a boolean gives. -/
def ofBool : Bool → Truth
  | true => yes
  | false => no

/-- The answer that an optional boolean gives; an absent one is unknown. -/
def ofOption : Option Bool → Truth
  | some b => ofBool b
  | none => unknown

/-- The optional boolean that stands for an answer. -/
def toOption : Truth → Option Bool
  | yes => some true
  | no => some false
  | unknown => none

/-- The word for an answer. -/
def text : Truth → String
  | yes => "TRUE"
  | no => "FALSE"
  | unknown => "UNKNOWN"

@[simp] theorem ofOption_toOption (t : Truth) : ofOption t.toOption = t := by
  cases t <;> rfl

@[simp] theorem toOption_ofOption (b : Option Bool) : (ofOption b).toOption = b := by
  rcases b with _ | _ | _ <;> rfl

@[simp] theorem not_not (t : Truth) : t.not.not = t := by
  cases t <;> rfl

@[simp] theorem yes_and (t : Truth) : yes.and t = t := by
  cases t <;> rfl

@[simp] theorem no_and (t : Truth) : no.and t = no := by
  cases t <;> rfl

@[simp] theorem and_no (t : Truth) : t.and no = no := by
  cases t <;> rfl

@[simp] theorem no_or (t : Truth) : no.or t = t := by
  cases t <;> rfl

@[simp] theorem yes_or (t : Truth) : yes.or t = yes := by
  cases t <;> rfl

@[simp] theorem or_yes (t : Truth) : t.or yes = yes := by
  cases t <;> rfl

theorem and_comm (s t : Truth) : s.and t = t.and s := by
  cases s <;> cases t <;> rfl

theorem or_comm (s t : Truth) : s.or t = t.or s := by
  cases s <;> cases t <;> rfl

theorem and_assoc (s t u : Truth) : (s.and t).and u = s.and (t.and u) := by
  cases s <;> cases t <;> cases u <;> rfl

theorem or_assoc (s t u : Truth) : (s.or t).or u = s.or (t.or u) := by
  cases s <;> cases t <;> cases u <;> rfl

/-- Negation turns a conjunction into the disjunction of the negations. -/
theorem not_and (s t : Truth) : (s.and t).not = s.not.or t.not := by
  cases s <;> cases t <;> rfl

/-- Negation turns a disjunction into the conjunction of the negations. -/
theorem not_or (s t : Truth) : (s.or t).not = s.not.and t.not := by
  cases s <;> cases t <;> rfl

end Truth

end Targeting
