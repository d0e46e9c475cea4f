import Targeting.Condition.Attribute
import Targeting.Proofs.Binary64.Rational
import Targeting.Proofs.Version.Grammar

/-!
# The rules for conditions on attributes

How a condition on an attribute is judged is described by nine rules, of which the first one that applies
decides. Each rule says by itself when it applies and what the judgement is then: it knows neither the rules
before it nor the operators, only their words.

## Main definitions

* `Condition.words`, `Condition.word` — the words for operators, and the word of a condition
* `Condition.Admits` — the values that a condition with a given word may have
* `Condition.Rule`, `Condition.Rule.all` — the rules in their order
* `Condition.Rule.Applies`, `Condition.Rule.Answers` — when a rule applies, and what the judgement is then
* `Condition.Rule.deciding?` — the first rule that applies

## Main results

* `Condition.judgeValue_of_unfit`, `Condition.judgeValue_of_mismatch` — values that cannot be compared
* `Condition.Rule.gives_unknownOperator` and its neighbours — what is judged where no earlier rule applies
* `Condition.exists_answers` — every judgement is that of the first rule that applies
-/

namespace Targeting

namespace Condition

/-! ### Rules -/

/-- The words for comparing numbers. -/
def numberWords : List String := ["gt", "ge", "lt", "le"]

/-- The words for comparing versions. -/
def versionWords : List String := ["semver_eq", "semver_gt", "semver_ge", "semver_lt", "semver_le"]

/-- The words for operators. -/
def words : List String := ["exact", "exists", "substring"] ++ numberWords ++ versionWords

/-- The word of a condition. One without a word asks for equality. -/
def word (c : Condition) : String := c.operator.getD "exact"

/-- The word for the sort of a value, if there are attributes of this sort. -/
def Value.kind? : Value → Option String
  | .text _ => some "string"
  | .number _ => some "number"
  | .boolean _ => some "boolean"
  | .null => some "null"
  | .other _ => none

/-- Whether a condition with a given word may have a value. Infinities are no values to compare with, nor are
numbers above `2 ^ 53`, where not all whole numbers can be told apart. -/
def Admits (word : String) : Value → Prop
  | .text _ => word = "exact" ∨ word = "substring" ∨ word ∈ versionWords
  | .number x => (word = "exact" ∨ word ∈ numberWords) ∧ x.isFinite = true ∧ |x.toRat| ≤ 2 ^ 53
  | .boolean _ => word = "exact"
  | .null => False
  | .other _ => False

/-- The rules, each of which decides what the ones before it leave open. -/
inductive Rule where
  | unknownOperator
  | existence
  | missingAttribute
  | unfitValue
  | nullAttribute
  | unfitAttribute
  | unsafeNumber
  | invalidVersion
  | comparison

/-- The stable name of the problem with which a judgement ends, if it ends with one. -/
def keyOf? : Except Problem Bool → Option String
  | .ok _ => none
  | .error problem => some problem.key

namespace Rule

/-- All rules in their order. -/
def all : List Rule :=
  [unknownOperator, existence, missingAttribute, unfitValue, nullAttribute, unfitAttribute, unsafeNumber,
    invalidVersion, comparison]

/-- Whether a rule applies to a condition and a user, whatever other rules say. -/
def Applies (c : Condition) (user : User) : Rule → Prop
  | unknownOperator => c.word ∉ words
  | existence => c.word = "exists"
  | missingAttribute => user.attribute? c.name = none
  | unfitValue => ¬ Admits c.word c.value
  | nullAttribute => user.attribute? c.name = some .null
  | unfitAttribute =>
    ∃ value, user.attribute? c.name = some value ∧ c.value.kind? ≠ some value.kind
  | unsafeNumber =>
    ∃ x, user.attribute? c.name = some (.number x) ∧ ¬ (x.isFinite = true ∧ |x.toRat| ≤ 2 ^ 53)
  | invalidVersion =>
    c.word ∈ versionWords ∧ ∃ actual wanted, user.attribute? c.name = some (.text actual) ∧
      c.value = .text wanted ∧ (Version.ofText? actual = none ∨ Version.ofText? wanted = none)
  | comparison => True

/-- The stable name of the problem that a rule finds. -/
def key? : Rule → Option String
  | unknownOperator => some "UNKNOWN_MATCH_TYPE"
  | existence => none
  | missingAttribute => some "MISSING_ATTRIBUTE_VALUE"
  | unfitValue => some "UNEXPECTED_CONDITION_VALUE"
  | nullAttribute => some "UNEXPECTED_TYPE_NULL"
  | unfitAttribute => some "UNEXPECTED_TYPE"
  | unsafeNumber => some "OUT_OF_BOUNDS"
  | invalidVersion => some "INVALID_SEMANTIC_VERSION"
  | comparison => none

/-- What the judgement is when a rule decides. -/
def Gives (c : Condition) (user : User) (judgement : Except Problem Bool) : Rule → Prop
  | unknownOperator => judgement = .error (.unknownOperator c)
  | existence =>
    ∃ holds, judgement = .ok holds ∧
      (holds = true ↔ ∃ value, user.attribute? c.name = some value ∧ value ≠ .null)
  | missingAttribute => judgement = .error (.missingAttribute c)
  | unfitValue => judgement = .error (.unfitValue c)
  | nullAttribute => judgement = .error (.nullAttribute c)
  | unfitAttribute =>
    ∃ value, user.attribute? c.name = some value ∧ judgement = .error (.unfitAttribute c value.kind)
  | unsafeNumber => judgement = .error (.unsafeNumber c)
  | invalidVersion =>
    ∃ actual wanted, user.attribute? c.name = some (.text actual) ∧ c.value = .text wanted ∧
      judgement = .error (.invalidVersion c
        (if (Version.ofText? actual).isNone then actual else wanted))
  | comparison => ∃ holds, judgement = .ok holds

/-- What the judgement is when a rule decides, and the stable name under which it is reported. -/
structure Answers (c : Condition) (user : User) (judgement : Except Problem Bool) (rule : Rule) : Prop where
  key : keyOf? judgement = rule.key?
  gives : rule.Gives c user judgement

open scoped Classical in
/-- The rule that decides, which is the first one that applies. -/
noncomputable def deciding? (c : Condition) (user : User) : Option Rule :=
  all.find? fun rule => rule.Applies c user

end Rule

/-! ### Words and operators -/

namespace Operator

variable {op : Operator} {named : String}

theorem ofText?_eq_some_iff : ofText? named = some op ↔ named = op.text := by
  constructor
  · intro known
    unfold ofText? at known
    split at known <;> first | (obtain rfl := Option.some.inj known; rfl) | contradiction
  · rintro rfl
    exact ofText?_text op

theorem text_mem_words (op : Operator) : op.text ∈ words := by
  rcases op with _ | _ | (_ | _ | _ | _) | _ | _ | (_ | _ | _ | _) <;> decide

theorem text_inj {other : Operator} : op.text = other.text ↔ op = other := by
  rw [eq_comm, ← ofText?_eq_some_iff, ofText?_text, Option.some_inj, eq_comm]

end Operator

section Words

variable {c : Condition} {v : Value}

theorem operator?_eq (c : Condition) : c.operator? = Operator.ofText? c.word := by
  unfold operator? word
  cases c.operator <;> rfl

theorem operator?_eq_none (unknown : c.word ∉ words) : c.operator? = none := by
  rw [operator?_eq, Option.eq_none_iff_forall_ne_some]
  intro op known
  exact unknown (Operator.ofText?_eq_some_iff.mp known ▸ op.text_mem_words)

theorem exists_operator (known : c.word ∈ words) : ∃ op, c.operator? = some op ∧ c.word = op.text := by
  -- The words are few, so each is simply looked up.
  have all : ∀ word ∈ words, (Operator.ofText? word).isSome := by decide
  obtain ⟨op, named⟩ := Option.isSome_iff_exists.mp (all c.word known)
  exact ⟨op, (operator?_eq c).trans named, Operator.ofText?_eq_some_iff.mp named⟩

theorem admits_exact_iff : Admits Operator.exact.text v ↔
    (∃ s, v = .text s) ∨ (∃ b, v = .boolean b) ∨ ∃ x, v = .number x ∧ x.isSafe = true := by
  cases v <;> simp [Admits, Operator.text, Binary64.isSafe_iff]

theorem not_admits_exists : ¬ Admits Operator.exists.text v := by
  cases v <;> simp [Admits, Operator.text, numberWords, versionWords]

theorem admits_number_iff (k : Comparison) :
    Admits (Operator.number k).text v ↔ ∃ x, v = .number x ∧ x.isSafe = true := by
  cases k <;> cases v <;>
    simp [Admits, Operator.text, numberWords, versionWords, Binary64.isSafe_iff]

theorem admits_substring_iff : Admits Operator.substring.text v ↔ ∃ s, v = .text s := by
  cases v <;> simp [Admits, Operator.text, numberWords]

theorem admits_sameVersion_iff : Admits Operator.sameVersion.text v ↔ ∃ s, v = .text s := by
  cases v <;> simp [Admits, Operator.text, numberWords, versionWords]

theorem admits_version_iff (k : Comparison) :
    Admits (Operator.version k).text v ↔ ∃ s, v = .text s := by
  cases k <;> cases v <;> simp [Admits, Operator.text, numberWords, versionWords]

end Words

namespace Value

variable {v : Value}

theorem kind?_eq_string_iff : v.kind? = some "string" ↔ ∃ s, v = .text s := by
  cases v <;> simp [kind?]

theorem kind?_eq_number_iff : v.kind? = some "number" ↔ ∃ x, v = .number x := by
  cases v <;> simp [kind?]

theorem kind?_eq_boolean_iff : v.kind? = some "boolean" ↔ ∃ b, v = .boolean b := by
  cases v <;> simp [kind?]

/-- No operator that compares admits null. -/
theorem kind?_ne_null {word : String} (fits : Admits word v) : v.kind? ≠ some "null" := by
  intro null
  cases v <;> simp [kind?, Admits] at null fits

end Value

/-! ### Values that cannot be compared -/

section Unfit

variable {c : Condition} {op : Operator} {value : Attribute}

theorem wantedText_of_unfit (unfit : ¬ ∃ s, c.value = .text s) :
    c.wantedText = .error (.unfitValue c) := by
  unfold wantedText
  split
  · next s text => exact absurd ⟨s, text⟩ unfit
  · rfl

theorem wantedNumber_of_unfit (unfit : ¬ ∃ x, c.value = .number x ∧ x.isSafe = true) :
    c.wantedNumber = .error (.unfitValue c) := by
  unfold wantedNumber
  split
  · next x number => exact if_neg fun safe => unfit ⟨x, number, safe⟩
  · rfl

theorem judgeVersion_of_unfit (unfit : ¬ ∃ s, c.value = .text s) (accepts : Ordering → Bool) :
    c.judgeVersion accepts value = .error (.unfitValue c) := by
  rw [judgeVersion, wantedText_of_unfit unfit]
  rfl

theorem judgeExact_of_unfit (unfit : ¬ Admits Operator.exact.text c.value) :
    c.judgeExact value = .error (.unfitValue c) := by
  rw [admits_exact_iff, not_or, not_or] at unfit
  obtain ⟨noText, noBoolean, noNumber⟩ := unfit
  unfold judgeExact
  split
  · next s text => exact absurd ⟨s, text⟩ noText
  · next b boolean => exact absurd ⟨b, boolean⟩ noBoolean
  · rw [wantedNumber_of_unfit noNumber]
    rfl

/-- A value that the operator does not admit is a problem whatever the user's value is. -/
theorem judgeValue_of_unfit (comparing : op ≠ .exists) (unfit : ¬ Admits op.text c.value) :
    c.judgeValue op value = .error (.unfitValue c) := by
  cases op with
  | exact => exact judgeExact_of_unfit unfit
  | «exists» => exact absurd rfl comparing
  | number k =>
    rw [admits_number_iff] at unfit
    rw [judgeValue, judgeNumber, wantedNumber_of_unfit unfit]
    rfl
  | substring =>
    rw [admits_substring_iff] at unfit
    rw [judgeValue, judgeSubstring, wantedText_of_unfit unfit]
    rfl
  | sameVersion => exact judgeVersion_of_unfit (admits_sameVersion_iff.not.mp unfit) _
  | version k => exact judgeVersion_of_unfit ((admits_version_iff k).not.mp unfit) _

end Unfit

/-! ### Values that are compared

If the condition's value is admitted, the user's value has to be read as one of its sort, and what is read is
compared. Only the comparison of versions can fail afterwards. -/

section Fit

variable {c : Condition} {op : Operator} {s : String} {b : Bool} {x : Binary64} {value : Attribute}

theorem wantedText_eq (text : c.value = .text s) : c.wantedText = .ok s := by
  rw [wantedText, text]

theorem wantedNumber_eq (number : c.value = .number x) (safe : x.isSafe = true) :
    c.wantedNumber = .ok x := by
  rw [wantedNumber, number]
  exact if_pos safe

theorem judgeNumber_eq (number : c.value = .number x) (safe : x.isSafe = true) (k : Comparison)
    (value : Attribute) : c.judgeNumber k value =
      (c.actualNumber value).map fun y => (y.compare? x).any k.accepts := by
  rw [judgeNumber, wantedNumber_eq number safe]
  rfl

theorem judgeExact_number (number : c.value = .number x) (safe : x.isSafe = true)
    (value : Attribute) : c.judgeExact value = (c.actualNumber value).map fun y => y.sameValue x := by
  rw [judgeExact, number, wantedNumber_eq number safe]
  rfl

theorem judgeExact_text (text : c.value = .text s) (value : Attribute) :
    c.judgeExact value = (c.actualText value).map (· == s) := by
  rw [judgeExact, text]
  rfl

theorem judgeExact_boolean (boolean : c.value = .boolean b) (value : Attribute) :
    c.judgeExact value = (c.actualBoolean value).map (· == b) := by
  rw [judgeExact, boolean]
  rfl

theorem judgeSubstring_eq (text : c.value = .text s) (value : Attribute) :
    c.judgeSubstring value =
      (c.actualText value).map fun actual => Text.occurs s.toList actual.toList := by
  rw [judgeSubstring, wantedText_eq text]
  rfl

/-- How an admitted number is compared with. -/
theorem exists_map_actualNumber (fits : Admits op.text c.value) (number : c.value = .number x) :
    ∃ compare, ∀ value, c.judgeValue op value = (c.actualNumber value).map compare := by
  rw [number] at fits
  have safe : x.isSafe = true := Binary64.isSafe_iff.mpr fits.2
  cases op with
  | exact => exact ⟨_, judgeExact_number number safe⟩
  | «exists» => exact absurd fits not_admits_exists
  | number k => exact ⟨_, judgeNumber_eq number safe k⟩
  | substring => simp [admits_substring_iff] at fits
  | sameVersion => simp [admits_sameVersion_iff] at fits
  | version k => simp [admits_version_iff] at fits

/-- How an admitted boolean is compared with. -/
theorem exists_map_actualBoolean (fits : Admits op.text c.value) (boolean : c.value = .boolean b) :
    ∃ compare, ∀ value, c.judgeValue op value = (c.actualBoolean value).map compare := by
  rw [boolean] at fits
  obtain rfl : op = .exact := Operator.text_inj.mp fits
  exact ⟨_, judgeExact_boolean boolean⟩

/-- How an admitted text is compared with that need not be a version. -/
theorem exists_map_actualText (fits : Admits op.text c.value) (text : c.value = .text s)
    (plain : op.text ∉ versionWords) :
    ∃ compare, ∀ value, c.judgeValue op value = (c.actualText value).map compare := by
  rw [text] at fits
  rcases fits with exact | substring | version
  · obtain rfl : op = .exact := Operator.text_inj.mp exact
    exact ⟨_, judgeExact_text text⟩
  · obtain rfl : op = .substring := Operator.text_inj.mp substring
    exact ⟨_, judgeSubstring_eq text⟩
  · exact absurd version plain

/-- How a text is compared with that has to be a version. -/
theorem exists_judgeVersion (version : op.text ∈ versionWords) :
    ∃ accepts, ∀ value, c.judgeValue op value = c.judgeVersion accepts value := by
  cases op with
  | sameVersion => exact ⟨_, fun _ => rfl⟩
  | version k => exact ⟨_, fun _ => rfl⟩
  | number k => cases k <;> simp [Operator.text, versionWords] at version
  | _ => simp [Operator.text, versionWords] at version

theorem actualText_of_kind_ne (other : value.kind ≠ "string") :
    c.actualText value = .error (c.mismatch value) := by
  cases value with
  | text s => exact absurd rfl other
  | _ => rfl

theorem actualNumber_of_kind_ne (other : value.kind ≠ "number") :
    c.actualNumber value = .error (c.mismatch value) := by
  cases value with
  | number x => exact absurd rfl other
  | _ => rfl

theorem actualBoolean_of_kind_ne (other : value.kind ≠ "boolean") :
    c.actualBoolean value = .error (c.mismatch value) := by
  cases value with
  | boolean b => exact absurd rfl other
  | _ => rfl

theorem judgeVersion_of_kind_ne (text : c.value = .text s) (other : value.kind ≠ "string")
    (accepts : Ordering → Bool) : c.judgeVersion accepts value = .error (c.mismatch value) := by
  rw [judgeVersion, wantedText_eq text, actualText_of_kind_ne other]
  rfl

/-- A user's value of another sort than an admitted value is a problem. -/
theorem judgeValue_of_mismatch (fits : Admits op.text c.value)
    (differ : c.value.kind? ≠ some value.kind) :
    c.judgeValue op value = .error (c.mismatch value) := by
  have other {kind : String} (sort : c.value.kind? = some kind) : value.kind ≠ kind := by
    rintro rfl
    exact differ sort
  cases held : c.value with
  | text s =>
    -- Texts have two checkers: a version is read only after the user's value has been found to be a text.
    have other : value.kind ≠ "string" := other (by rw [held]; rfl)
    by_cases version : op.text ∈ versionWords
    · obtain ⟨accepts, judge⟩ := exists_judgeVersion (c := c) version
      rw [judge, judgeVersion_of_kind_ne held other]
    · obtain ⟨compare, judge⟩ := exists_map_actualText fits held version
      rw [judge, actualText_of_kind_ne other]
      rfl
  | number x =>
    obtain ⟨compare, judge⟩ := exists_map_actualNumber fits held
    rw [judge, actualNumber_of_kind_ne (other (by rw [held]; rfl))]
    rfl
  | boolean b =>
    obtain ⟨compare, judge⟩ := exists_map_actualBoolean fits held
    rw [judge, actualBoolean_of_kind_ne (other (by rw [held]; rfl))]
    rfl
  | null => simp [held, Admits] at fits
  | other v => simp [held, Admits] at fits

theorem judgeValue_of_unsafe (fits : Admits op.text c.value) (number : c.value = .number x)
    {y : Binary64} (far : ¬ y.isSafe = true) :
    c.judgeValue op (.number y) = .error (.unsafeNumber c) := by
  obtain ⟨compare, judge⟩ := exists_map_actualNumber fits number
  rw [judge, actualNumber, if_neg far]
  rfl

theorem judgeVersion_eq (text : c.value = .text s) (accepts : Ordering → Bool) (actual : String) :
    c.judgeVersion accepts (.text actual) =
      ((Version.order s actual).mapError (.invalidVersion c)).map accepts := by
  have given : c.actualText (.text actual) = .ok actual := rfl
  rw [judgeVersion, wantedText_eq text, given]
  simp only [bind, Except.bind]
  cases Version.order s actual <;> rfl

end Fit

/-! ### The first rule -/

section Presence

variable {c : Condition} {user : User} {op : Operator} {value : Attribute}

theorem judgeAttribute_of_present (named : c.operator? = some op)
    (present : user.attribute? c.name = some value) :
    c.judgeAttribute user = c.judgeValue op value := by
  simp only [judgeAttribute, named, present]

theorem judgeAttribute_of_missing (named : c.operator? = some op) (comparing : op ≠ .exists)
    (missing : user.attribute? c.name = none) :
    c.judgeAttribute user = .error (.missingAttribute c) := by
  simp only [judgeAttribute, named, missing, if_neg comparing]

end Presence

open scoped Classical in
/-- What is found first is found in turn. -/
theorem exists_find?_cons {α : Type} {p : α → Prop} {Found : α → Prop} {x : α}
    {xs : List α} (here : p x → Found x)
    (later : ¬ p x → ∃ y, xs.find? (fun z => p z) = some y ∧ Found y) :
    ∃ y, (x :: xs).find? (fun z => p z) = some y ∧ Found y := by
  by_cases first : p x
  · exact ⟨x, List.find?_cons_of_pos (decide_eq_true first), here first⟩
  · rw [List.find?_cons_of_neg (by simpa using first)]
    exact later first

namespace Rule

variable {c : Condition} {user : User} {op : Operator} {value : Attribute}

/-- What a rule gives is reported under the name of the rule. -/
theorem keyOf?_of_gives {rule : Rule} {judgement : Except Problem Bool}
    (gives : rule.Gives c user judgement) : keyOf? judgement = rule.key? := by
  cases rule with
  | existence =>
    obtain ⟨holds, rfl, -⟩ := gives
    rfl
  | unfitAttribute =>
    obtain ⟨value, -, rfl⟩ := gives
    rfl
  | invalidVersion =>
    obtain ⟨actual, wanted, -, -, rfl⟩ := gives
    rfl
  | comparison =>
    obtain ⟨holds, rfl⟩ := gives
    rfl
  | unknownOperator | missingAttribute | unfitValue | nullAttribute | unsafeNumber =>
    obtain rfl := gives
    rfl

theorem gives_unknownOperator (unknown : Applies c user unknownOperator) :
    Gives c user (c.judgeAttribute user) unknownOperator := by
  show c.judgeAttribute user = _
  rw [judgeAttribute, operator?_eq_none unknown]

section Known

variable (named : c.operator? = some op) (word : c.word = op.text)
include word

theorem ne_exists (comparing : ¬ Applies c user existence) : op ≠ .exists := by
  rintro rfl
  exact comparing word

include named

theorem gives_existence (asks : Applies c user existence) :
    Gives c user (c.judgeAttribute user) existence := by
  obtain rfl : op = .exists := Operator.text_inj.mp (word.symm.trans asks)
  cases present : user.attribute? c.name with
  | none =>
    have judgement : c.judgeAttribute user = .ok false := by
      simp only [judgeAttribute, named, present, if_pos]
    exact ⟨false, judgement, by simp [present]⟩
  | some value =>
    refine ⟨!value.isNull, judgeAttribute_of_present named present, ?_⟩
    cases value <;> simp [present, Attribute.isNull]

theorem gives_missingAttribute (comparing : ¬ Applies c user existence)
    (missing : Applies c user missingAttribute) :
    Gives c user (c.judgeAttribute user) missingAttribute :=
  judgeAttribute_of_missing named (ne_exists word comparing) missing

end Known

theorem gives_unfitValue (word : c.word = op.text) (comparing : ¬ Applies c user existence)
    (unfit : Applies c user unfitValue) : Gives c user (c.judgeValue op value) unfitValue :=
  judgeValue_of_unfit (ne_exists word comparing) (word ▸ unfit)

section Present

variable (present : user.attribute? c.name = some value)
include present

theorem eq_of_present {other : Attribute} (found : user.attribute? c.name = some other) :
    value = other := Option.some.inj (present.symm.trans found)

theorem gives_invalidVersion (word : c.word = op.text) (invalid : Applies c user invalidVersion) :
    Gives c user (c.judgeValue op value) invalidVersion := by
  obtain ⟨version, actual, wanted, found, text, invalid⟩ := invalid
  obtain rfl := eq_of_present present found
  obtain ⟨accepts, judge⟩ := exists_judgeVersion (word ▸ version)
  refine ⟨actual, wanted, found, text, ?_⟩
  rw [judge, judgeVersion_eq text, Version.order_of_invalid invalid]
  rfl

theorem exists_order (word : c.word = op.text) (version : op.text ∈ versionWords) {actual wanted : String}
    (read : value = .text actual) (text : c.value = .text wanted)
    (valid : ¬ Applies c user invalidVersion) : ∃ place, Version.order wanted actual = .ok place := by
  have both : ¬ (Version.ofText? actual = none ∨ Version.ofText? wanted = none) := by
    intro invalid
    exact valid ⟨word ▸ version, actual, wanted, read ▸ present, text, invalid⟩
  rw [not_or] at both
  obtain ⟨u, actual⟩ := Option.ne_none_iff_exists'.mp both.1
  obtain ⟨v, wanted⟩ := Option.ne_none_iff_exists'.mp both.2
  exact ⟨_, Version.order_eq wanted actual⟩

theorem kind?_eq (same : ¬ Applies c user unfitAttribute) : c.value.kind? = some value.kind :=
  not_not.mp fun differ => same ⟨value, present, differ⟩

variable (fits : Admits op.text c.value)
include fits

/-- An admitted value is not null, so the user's value is of another sort if it is null. -/
theorem gives_nullAttribute (null : Applies c user nullAttribute) :
    Gives c user (c.judgeValue op value) nullAttribute := by
  obtain rfl := eq_of_present present null
  exact judgeValue_of_mismatch fits (Value.kind?_ne_null fits)

theorem gives_unfitAttribute (valued : ¬ Applies c user nullAttribute)
    (differ : Applies c user unfitAttribute) :
    Gives c user (c.judgeValue op value) unfitAttribute := by
  obtain ⟨other, found, differ⟩ := differ
  obtain rfl := eq_of_present present found
  refine ⟨value, present, (judgeValue_of_mismatch fits differ).trans ?_⟩
  cases value with
  | null => exact absurd present valued
  | _ => rfl

theorem gives_unsafeNumber (same : ¬ Applies c user unfitAttribute) (far : Applies c user unsafeNumber) :
    Gives c user (c.judgeValue op value) unsafeNumber := by
  obtain ⟨y, found, far⟩ := far
  obtain rfl := eq_of_present present found
  obtain ⟨x, number⟩ := Value.kind?_eq_number_iff.mp (kind?_eq present same)
  exact judgeValue_of_unsafe fits number (Binary64.isSafe_iff.not.mpr far)

/-- What no earlier rule applies to can be compared. -/
theorem gives_comparison (word : c.word = op.text) (same : ¬ Applies c user unfitAttribute)
    (near : ¬ Applies c user unsafeNumber) (valid : ¬ Applies c user invalidVersion) :
    Gives c user (c.judgeValue op value) comparison := by
  have sort := kind?_eq present same
  show ∃ holds, c.judgeValue op value = .ok holds
  cases value with
  | text actual =>
    obtain ⟨wanted, text⟩ := Value.kind?_eq_string_iff.mp sort
    by_cases version : op.text ∈ versionWords
    · obtain ⟨accepts, judge⟩ := exists_judgeVersion version
      obtain ⟨place, order⟩ := exists_order present word version rfl text valid
      rw [judge, judgeVersion_eq text, order]
      exact ⟨_, rfl⟩
    · obtain ⟨compare, judge⟩ := exists_map_actualText fits text version
      exact ⟨_, judge _⟩
  | number y =>
    have safe : y.isSafe = true :=
      Binary64.isSafe_iff.mpr (not_not.mp fun far => near ⟨y, present, far⟩)
    obtain ⟨x, number⟩ := Value.kind?_eq_number_iff.mp sort
    obtain ⟨compare, judge⟩ := exists_map_actualNumber fits number
    rw [judge, actualNumber, if_pos safe]
    exact ⟨_, rfl⟩
  | boolean b =>
    obtain ⟨wanted, boolean⟩ := Value.kind?_eq_boolean_iff.mp sort
    obtain ⟨compare, judge⟩ := exists_map_actualBoolean fits boolean
    exact ⟨_, judge _⟩
  | null => exact absurd sort (Value.kind?_ne_null fits)

end Present

end Rule

open Rule in
/-- Every judgement of a condition on an attribute is that of the first rule that applies, and it is reported
under the stable name of this rule. -/
theorem exists_answers (c : Condition) (user : User) :
    ∃ rule, Rule.deciding? c user = some rule ∧ rule.Answers c user (c.judgeAttribute user) := by
  suffices decided : ∃ rule, deciding? c user = some rule ∧ rule.Gives c user (c.judgeAttribute user) by
    obtain ⟨rule, first, gives⟩ := decided
    exact ⟨rule, first, keyOf?_of_gives gives, gives⟩
  unfold deciding? all
  -- Each rule that is passed over leaves what the next ones need to know.
  refine exists_find?_cons gives_unknownOperator fun known => ?_
  obtain ⟨op, named, word⟩ := exists_operator (not_not.mp known)
  refine exists_find?_cons (gives_existence named word) fun comparing => ?_
  refine exists_find?_cons (gives_missingAttribute named word comparing) fun there => ?_
  obtain ⟨value, present⟩ := Option.ne_none_iff_exists'.mp there
  rw [judgeAttribute_of_present named present]
  refine exists_find?_cons (gives_unfitValue word comparing) fun admitted => ?_
  have fits : Admits op.text c.value := word ▸ not_not.mp admitted
  refine exists_find?_cons (gives_nullAttribute present fits) fun valued => ?_
  refine exists_find?_cons (gives_unfitAttribute present fits valued) fun same => ?_
  refine exists_find?_cons (gives_unsafeNumber present fits same) fun near => ?_
  refine exists_find?_cons (gives_invalidVersion present word) fun valid => ?_
  -- The last rule always applies, so that nothing is left over.
  refine exists_find?_cons (fun _ => ?_) fun last => absurd trivial last
  exact gives_comparison present fits word same near valid

end Condition

end Targeting
