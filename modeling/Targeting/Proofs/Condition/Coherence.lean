import Targeting.Proofs.Condition.Rules

/-!
# Comparisons that agree

The same values can be compared in five ways. Equality of numbers is judged apart from the other four ways,
since texts and booleans can be equal too, but the five ways agree: either none of them can be judged, for the
same reason, or the user's value is less than the condition's, equal to it or greater, and all of them follow.

## Main definitions

* `Condition.Relation` — the five ways, with their words
* `Condition.Coherent` — what it means that five judgements agree
* `Condition.FollowsRationals` — a judgement of numbers is one of the rationals that they denote

## Main results

* `Condition.coherent_comparisons` — the five ways agree for every number and for every version
-/

namespace Targeting

namespace Condition

/-- The ways in which a user's value can stand to a condition's. -/
inductive Relation where
  | lt
  | le
  | eq
  | ge
  | gt

namespace Relation

/-- The word for comparing numbers so. -/
def numberWord : Relation → String
  | lt => "lt"
  | le => "le"
  | eq => "exact"
  | ge => "ge"
  | gt => "gt"

/-- The word for comparing versions so. -/
def versionWord : Relation → String
  | lt => "semver_lt"
  | le => "semver_le"
  | eq => "semver_eq"
  | ge => "semver_ge"
  | gt => "semver_gt"

/-- Whether two rationals stand so to each other. -/
def Holds : Relation → ℚ → ℚ → Prop
  | lt => (· < ·)
  | le => (· ≤ ·)
  | eq => (· = ·)
  | ge => (· ≥ ·)
  | gt => (· > ·)

end Relation

/-- The condition with another word and another value. -/
def asking (c : Condition) (word : String) (value : Value) : Condition :=
  { c with operator := some word, value }

/-- Five judgements agree if all end with the same problem, or all can be made and exactly one of the
relations `lt`, `eq` and `gt` is found, from which the other two follow. -/
inductive Coherent (judge : Relation → Except Problem Bool) : Prop where
  | undecided (key : String) (keys : ∀ relation, keyOf? (judge relation) = some key)
  | decided (less same more : Bool) (lt : judge .lt = .ok less) (eq : judge .eq = .ok same)
      (gt : judge .gt = .ok more) (le : judge .le = .ok (less || same))
      (ge : judge .ge = .ok (more || same)) (one : [less, same, more].count true = 1)

/-- A judgement of whether the user's number stands to a given one in some way is one of the rationals that
these two denote, both of which are finite. -/
def FollowsRationals (c : Condition) (user : User) (x : Binary64) (relation : Relation)
    (judgement : Except Problem Bool) : Prop :=
  ∀ holds, judgement = .ok holds → ∃ y, user.attribute? c.name = some (.number y) ∧
    x.isFinite = true ∧ y.isFinite = true ∧ (holds = true ↔ relation.Holds y.toRat x.toRat)

/-! ### Relations and operators -/

namespace Relation

/-- Whether what has a given place stands so. -/
def accepts : Relation → Ordering → Bool
  | lt => Comparison.lt.accepts
  | le => Comparison.le.accepts
  | eq => (· == .eq)
  | ge => Comparison.ge.accepts
  | gt => Comparison.gt.accepts

/-- The operator that compares numbers so. -/
def numberOperator : Relation → Operator
  | lt => .number .lt
  | le => .number .le
  | eq => .exact
  | ge => .number .ge
  | gt => .number .gt

/-- The operator that compares versions so. -/
def versionOperator : Relation → Operator
  | lt => .version .lt
  | le => .version .le
  | eq => .sameVersion
  | ge => .version .ge
  | gt => .version .gt

variable (relation : Relation)

theorem ofText?_numberWord : Operator.ofText? relation.numberWord = some relation.numberOperator := by
  cases relation <;> rfl

theorem ofText?_versionWord :
    Operator.ofText? relation.versionWord = some relation.versionOperator := by
  cases relation <;> rfl

theorem numberOperator_ne_exists : relation.numberOperator ≠ .exists := by
  cases relation <;> exact nofun

theorem versionOperator_ne_exists : relation.versionOperator ≠ .exists := by
  cases relation <;> exact nofun

theorem accepts_compare_iff (a b : ℚ) : relation.accepts (compare a b) = true ↔ relation.Holds a b := by
  cases relation <;> simp [accepts, Comparison.accepts, Holds, compare_lt_iff_lt, compare_gt_iff_gt]

theorem admits_numberOperator_iff {x : Binary64} :
    Admits relation.numberOperator.text (.number x) ↔ x.isSafe = true := by
  cases relation <;> simp [numberOperator, admits_number_iff, admits_exact_iff]

theorem admits_versionOperator {s : String} : Admits relation.versionOperator.text (.text s) := by
  cases relation <;> simp [versionOperator, admits_version_iff, admits_sameVersion_iff]

/-- Two safe numbers are compared as the rationals that they denote, by either checker. -/
theorem judgeValue_number {d : Condition} {x y : Binary64} (number : d.value = .number x)
    (safe : x.isSafe = true) (near : y.isSafe = true) :
    d.judgeValue relation.numberOperator (.number y) =
      .ok (relation.accepts (compare y.toRat x.toRat)) := by
  have read : d.actualNumber (.number y) = .ok y := if_pos near
  have place : y.compare? x = some (compare y.toRat x.toRat) :=
    Binary64.compare?_eq_compare_toRat (Binary64.isSafe_iff.mp near).1 (Binary64.isSafe_iff.mp safe).1
  cases relation with
  | eq =>
    show d.judgeExact (.number y) = _
    rw [judgeExact_number number safe, read, Except.map, Binary64.sameValue, place]
    rfl
  | lt | le | ge | gt =>
    show d.judgeNumber _ (.number y) = _
    rw [judgeNumber_eq number safe, read, Except.map, place]
    rfl

theorem judgeValue_version {d : Condition} {s : String} (text : d.value = .text s) (actual : String) :
    d.judgeValue relation.versionOperator (.text actual) =
      ((Version.order s actual).mapError (.invalidVersion d)).map relation.accepts := by
  cases relation <;> exact judgeVersion_eq text _ actual

end Relation

namespace Coherent

variable {judge : Relation → Except Problem Bool}

/-- Judgements agree if all follow from one place. -/
theorem of_place (place : Ordering) (judged : ∀ relation, judge relation = .ok (relation.accepts place)) :
    Coherent judge := by
  apply Coherent.decided _ _ _ (judged .lt) (judged .eq) (judged .gt) <;>
    cases place <;> first | exact judged _ | rfl

end Coherent

/-! ### Five questions about one user -/

section Problems

variable {d : Condition} {user : User} {op : Operator} (named : d.operator? = some op)
include named

theorem keyOf?_of_missing (comparing : op ≠ .exists) (missing : user.attribute? d.name = none) :
    keyOf? (d.judgeAttribute user) = some "MISSING_ATTRIBUTE_VALUE" := by
  rw [judgeAttribute_of_missing named comparing missing]
  rfl

/-- The name of the problem does not tell the conditions apart. -/
theorem keyOf?_of_mismatch {value : Attribute} (present : user.attribute? d.name = some value)
    (fits : Admits op.text d.value) (differ : d.value.kind? ≠ some value.kind) (c : Condition) :
    keyOf? (d.judgeAttribute user) = some (c.mismatch value).key := by
  rw [judgeAttribute_of_present named present, judgeValue_of_mismatch fits differ]
  cases value <;> rfl

end Problems

section Asking

variable (c : Condition) (user : User)

/-- The five ways to compare numbers have one problem, or two safe numbers are compared. -/
theorem cases_number (x : Binary64) :
    (∃ key, ∀ relation : Relation,
      keyOf? ((c.asking relation.numberWord (.number x)).judgeAttribute user) = some key) ∨
    ∃ y, user.attribute? c.name = some (.number y) ∧ x.isSafe = true ∧ y.isSafe = true ∧
      ∀ relation : Relation, (c.asking relation.numberWord (.number x)).judgeAttribute user =
        .ok (relation.accepts (compare y.toRat x.toRat)) := by
  let asked (relation : Relation) : Condition := c.asking relation.numberWord (.number x)
  have comparing := Relation.numberOperator_ne_exists
  have named : ∀ relation, (asked relation).operator? = some relation.numberOperator :=
    Relation.ofText?_numberWord
  cases present : user.attribute? c.name with
  | none =>
    exact .inl ⟨_, fun relation => keyOf?_of_missing (named relation) (comparing relation) present⟩
  | some value =>
    have judged relation := judgeAttribute_of_present (named relation) present
    -- Equality has a checker of its own, but both checkers look at the same things in the same order.
    by_cases safe : x.isSafe = true
    · have fits relation : Admits (Relation.numberOperator relation).text (asked relation).value :=
        relation.admits_numberOperator_iff.mpr safe
      by_cases number : ∃ y, value = .number y
      · obtain ⟨y, rfl⟩ := number
        by_cases near : y.isSafe = true
        · refine .inr ⟨y, rfl, safe, near, fun relation => ?_⟩
          rw [judged, relation.judgeValue_number rfl safe near]
        · refine .inl ⟨"OUT_OF_BOUNDS", fun relation => ?_⟩
          rw [judged, judgeValue_of_unsafe (fits relation) rfl near]
          rfl
      · refine .inl ⟨(c.mismatch value).key, fun relation => ?_⟩
        have differ : (asked relation).value.kind? ≠ some value.kind := by
          cases value with
          | number y => exact absurd ⟨y, rfl⟩ number
          | _ => simp [asked, asking, Value.kind?, Attribute.kind]
        exact keyOf?_of_mismatch (named relation) present (fits relation) differ c
    · refine .inl ⟨"UNEXPECTED_CONDITION_VALUE", fun relation => ?_⟩
      have unfit := relation.admits_numberOperator_iff.not.mpr safe
      rw [judged, judgeValue_of_unfit (comparing relation) unfit]
      rfl

/-- The five ways to compare versions have one problem, or a place is found. -/
theorem cases_version (s : String) :
    (∃ key, ∀ relation : Relation,
      keyOf? ((c.asking relation.versionWord (.text s)).judgeAttribute user) = some key) ∨
    ∃ place, ∀ relation : Relation, (c.asking relation.versionWord (.text s)).judgeAttribute user =
      .ok (relation.accepts place) := by
  let asked (relation : Relation) : Condition := c.asking relation.versionWord (.text s)
  have named : ∀ relation, (asked relation).operator? = some relation.versionOperator :=
    Relation.ofText?_versionWord
  cases present : user.attribute? c.name with
  | none =>
    exact .inl ⟨_, fun relation =>
      keyOf?_of_missing (named relation) relation.versionOperator_ne_exists present⟩
  | some value =>
    have judged relation := judgeAttribute_of_present (named relation) present
    by_cases text : ∃ actual, value = .text actual
    · obtain ⟨actual, rfl⟩ := text
      have compared (relation : Relation) := relation.judgeValue_version (d := asked relation) rfl actual
      cases order : Version.order s actual with
      | ok place =>
        refine .inr ⟨place, fun relation => ?_⟩
        rw [judged, compared, order]
        rfl
      | error version =>
        refine .inl ⟨"INVALID_SEMANTIC_VERSION", fun relation => ?_⟩
        rw [judged, compared, order]
        rfl
    · refine .inl ⟨(c.mismatch value).key, fun relation => ?_⟩
      have fits : Admits relation.versionOperator.text (asked relation).value :=
        relation.admits_versionOperator
      have differ : (asked relation).value.kind? ≠ some value.kind := by
        cases value with
        | text actual => exact absurd ⟨actual, rfl⟩ text
        | _ => simp [asked, asking, Value.kind?, Attribute.kind]
      exact keyOf?_of_mismatch (named relation) present fits differ c

end Asking

/-- Whatever a condition and a user are, the five ways to compare agree for every number, where they are those
of the rationals that the numbers denote, and for every version. -/
theorem coherent_comparisons (c : Condition) (user : User) :
    (∀ x : Binary64,
      Coherent (fun relation => (c.asking relation.numberWord (.number x)).judgeAttribute user) ∧
      ∀ relation, FollowsRationals c user x relation
        ((c.asking relation.numberWord (.number x)).judgeAttribute user)) ∧
    ∀ s : String,
      Coherent fun relation => (c.asking relation.versionWord (.text s)).judgeAttribute user := by
  constructor
  · intro x
    rcases cases_number c user x with ⟨key, problem⟩ | ⟨y, present, safe, near, judged⟩
    · refine ⟨.undecided key problem, fun relation holds judged => ?_⟩
      have none := problem relation
      rw [judged] at none
      exact absurd none nofun
    · refine ⟨.of_place _ judged, fun relation holds found => ?_⟩
      obtain rfl : relation.accepts (compare y.toRat x.toRat) = holds :=
        Except.ok.inj ((judged relation).symm.trans found)
      exact ⟨y, present, (Binary64.isSafe_iff.mp safe).1, (Binary64.isSafe_iff.mp near).1,
        relation.accepts_compare_iff _ _⟩
  · intro s
    rcases cases_version c user s with ⟨key, problem⟩ | ⟨place, judged⟩
    · exact .undecided key problem
    · exact .of_place place judged

end Condition

end Targeting
