import Mathlib.Data.List.Basic
import Targeting.Proofs.Version.Grammar
import Targeting.Proofs.Version.Number

/-!
# Digits of other scripts

A component of a version may be written with the digits of any script, but only a part of ASCII digits is
compared as a number. So it is the digits of ASCII for which reading and comparing agree on what a number
is: with no others in their components, two versions are compared as texts only where a suffix is, and of
two components always the numbers count. A digit of another script makes a text of its component, and three
comes behind five.

## Main definitions

* `Version.value` — the number that digits of any script stand for
* `Version.compared`, `Version.ComparesTexts` — the parts that are compared, and where they are as texts
* `Version.AgreeOnNumbers` — two versions for which reading and comparing agree on what a number is

## Main results

* `Version.compareParts_of_mem_compared` — the parts that differ decide
* `Version.comparesTexts_iff` — two components are compared as texts for digits of other scripts
* `Version.agreeOnNumbers_iff` — reading and comparing agree if and only if there are no others in front of
  the suffixes
-/

namespace Targeting

namespace Text

variable {c : Char}

/-- The value of a decimal digit: how far it stands behind the zero of its script. -/
def digitValue (c : Char) : Nat :=
  match digitZeros.find? fun first => first ≤ c.toNat && c.toNat < first + 10 with
  | some first => c.toNat - first
  | none => 0

/-- The value of a digit of ASCII is the usual one. -/
theorem digitValue_of_isDigit (h : c.isDigit = true) : digitValue c = c.toNat - 48 := by
  have bounds := Version.code_of_isDigit h
  have first : digitZeros.find? (fun first => first ≤ c.toNat && c.toNat < first + 10) = some 48 := by
    refine List.find?_cons_of_pos ?_
    simp only [Bool.and_eq_true, decide_eq_true_eq]
    omega
  rw [digitValue, first]

/-- The decimal digits of ASCII are those that are characters of ASCII. -/
theorem isDigit_iff_of_isDecimalDigit (h : isDecimalDigit c = true) :
    c.isDigit = true ↔ c.toNat < 128 := by
  obtain ⟨first, hf, bounds⟩ := List.any_eq_true.mp h
  simp only [Bool.and_eq_true, decide_eq_true_eq] at bounds
  have ascii : ∀ first ∈ digitZeros, first = 48 ∨ 128 ≤ first := by decide
  constructor
  · intro digit
    have := Version.code_of_isDigit digit
    omega
  · intro low
    have zero : first = 48 := (ascii first hf).resolve_right (by omega)
    simp only [Char.isDigit, ge_iff_le, Bool.and_eq_true, decide_eq_true_eq,
      UInt32.le_iff_toNat_le]
    show 48 ≤ c.toNat ∧ c.toNat ≤ 57
    omega

end Text

namespace Version

variable {c u v : Version} {w a part : List Char} {ws as : List (List Char)} {i : Nat}

/-! ### Digits of any script -/

/-- The number that decimal digits stand for. -/
def value (part : List Char) : Nat := part.foldl (fun n c => 10 * n + Text.digitValue c) 0

/-- The number of a run of ASCII digits is the one that it is compared as. -/
theorem value_eq_number (h : isNumeric part = true) : value part = number part := by
  have digits := (isNumeric_iff.mp h).2
  rw [value, number, Nat.ofDigitChars]
  refine List.foldl_ext _ _ _ fun n d hd => ?_
  rw [Text.digitValue_of_isDigit (digits d hd)]
  rfl

/-- A run of decimal digits is compared as a number if its digits are those of ASCII. -/
theorem isNumeric_iff_of_isDigitRun (h : isDigitRun part = true) :
    isNumeric part = true ↔ ∀ d ∈ part, d.toNat < 128 := by
  obtain ⟨nonempty, digits⟩ := isDigitRun_iff.mp h
  rw [isNumeric_iff, and_iff_right nonempty]
  exact forall₂_congr fun d hd => Text.isDigit_iff_of_isDecimalDigit (digits d hd)

/-! ### What is compared -/

/-- The pairs of parts that are compared, the wanted one and the actual one: up to the first two that differ,
or to the end of a version. -/
def compared (condition user : Version) :
    (wanted actual : List (List Char)) → List (List Char × List Char)
  | w :: ws, a :: as =>
    (w, a) :: if comparePart condition user w a = .eq then compared condition user ws as else []
  | _, _ => []

/-- Parts that are compared and differ decide. -/
theorem compareParts_of_mem_compared (h : (w, a) ∈ compared c u ws as)
    (differ : comparePart c u w a ≠ .eq) : compareParts c u ws as = comparePart c u w a := by
  induction ws generalizing as with
  | nil => exact absurd h List.not_mem_nil
  | cons w' ws ih =>
    cases as with
    | nil => exact absurd h List.not_mem_nil
    | cons a' as =>
      rw [compareParts_cons_cons]
      rcases List.mem_cons.mp h with same | later
      · obtain ⟨rfl, rfl⟩ := Prod.mk.inj same
        cases place : comparePart c u w a with
        | eq => exact absurd place differ
        | lt => rfl
        | gt => rfl
      · split at later
        · next equal =>
          rw [equal]
          exact ih later
        · exact absurd later List.not_mem_nil

/-- The parts that are compared stand at the same place. -/
theorem compared_prefix (c u : Version) (ws as : List (List Char)) :
    compared c u ws as <+: ws.zip as := by
  induction ws generalizing as with
  | nil => exact List.prefix_rfl
  | cons w ws ih =>
    cases as with
    | nil => exact List.prefix_rfl
    | cons a as =>
      rw [compared, List.zip_cons_cons, List.prefix_cons_inj]
      split
      · exact ih as
      · exact List.nil_prefix

/-- Two parts are compared at a place, and it is done as texts. -/
def ComparesTexts (condition user : Version) (i : Nat) : Prop :=
  ∃ w a, (compared condition user condition.parts user.parts)[i]? = some (w, a) ∧
    ¬ (isNumeric w = true ∧ isNumeric a = true)

/-- In front of the suffixes, the parts that are compared are components. -/
theorem components_of_compared (h : (compared c u c.parts u.parts)[i]? = some (w, a))
    (hc : i < c.components.length) (hu : i < u.components.length) :
    w ∈ c.components ∧ a ∈ u.components := by
  have both : (c.parts.zip u.parts)[i]? = some (w, a) := by
    obtain ⟨rest, zip⟩ := compared_prefix c u c.parts u.parts
    rw [← zip, List.getElem?_append_left (List.getElem?_eq_some_iff.mp h).1, h]
  obtain ⟨wanted, actual⟩ := List.getElem?_zip_eq_some.mp both
  rw [parts, List.getElem?_append_left hc] at wanted
  rw [parts, List.getElem?_append_left hu] at actual
  exact ⟨List.mem_of_getElem? wanted, List.mem_of_getElem? actual⟩

/-- Two components are compared as texts if and only if one of them has a digit that is none of ASCII. -/
theorem comparesTexts_iff (hc : c.IsProper) (hu : u.IsProper) (wanted : i < c.components.length)
    (actual : i < u.components.length) : ComparesTexts c u i ↔
      ∃ w a, (compared c u c.parts u.parts)[i]? = some (w, a) ∧ ∃ d ∈ w ++ a, 128 ≤ d.toNat := by
  refine exists₂_congr fun w a => and_congr_right fun found => ?_
  obtain ⟨hw, ha⟩ := components_of_compared found wanted actual
  rw [isNumeric_iff_of_isDigitRun (hc.digits w hw), isNumeric_iff_of_isDigitRun (hu.digits a ha),
    ← List.forall_mem_append]
  simp only [not_forall, Nat.not_lt, exists_prop]

/-! ### Reading and comparing -/

/-- What is read as a component is compared as a number: all components are numbers as far as comparing goes,
texts are compared only where one of them is a suffix, and two components stand to each other as the numbers
do that they are written for. -/
structure AgreeOnNumbers (condition user : Version) : Prop where
  numeric : ∀ part ∈ condition.components ++ user.components, isNumeric part = true
  texts : ∀ i, ComparesTexts condition user i →
    condition.components.length ≤ i ∨ user.components.length ≤ i
  order : ∀ w ∈ condition.components, ∀ a ∈ user.components,
    comparePart condition user w a = compare (value a) (value w)

theorem AgreeOnNumbers.of_numeric
    (numeric : ∀ part ∈ c.components ++ u.components, isNumeric part = true) :
    AgreeOnNumbers c u := by
  obtain ⟨hc, hu⟩ := List.forall_mem_append.mp numeric
  refine ⟨numeric, fun i ⟨w, a, found, text⟩ => ?_, fun w hw a ha => ?_⟩
  · by_contra front
    rw [not_or, Nat.not_le, Nat.not_le] at front
    obtain ⟨hw, ha⟩ := components_of_compared found front.1 front.2
    exact text ⟨hc w hw, hu a ha⟩
  · rw [comparePart_of_isNumeric c u (hc w hw) (hu a ha), value_eq_number (hc w hw),
      value_eq_number (hu a ha)]

/-- The components of a version are numbers as far as comparing goes if and only if there are characters of
ASCII only in front of its mark. -/
theorem IsProper.isNumeric_iff (h : v.IsProper) : (∀ part ∈ v.components, isNumeric part = true) ↔
    ∀ d ∈ v.toChars.takeWhile (!isMark ·), d.toNat < 128 := by
  rw [h.takeWhile_toChars]
  constructor
  · intro numeric d hd
    rcases Text.mem_join hd with rfl | ⟨part, hp, hd⟩
    · decide
    · exact (isNumeric_iff_of_isDigitRun (h.digits part hp)).mp (numeric part hp) d hd
  · intro ascii part hp
    exact (isNumeric_iff_of_isDigitRun (h.digits part hp)).mpr fun d hd =>
      ascii d (Text.mem_join_of_mem hp hd)

/-- Of two versions, reading and comparing agree on what a number is if and only if they have characters of
ASCII only in front of their marks. Where they do not agree, two components are compared as texts exactly
where a digit of another script is among those of the two. -/
theorem agreeOnNumbers_iff {condition user : String} (hc : ofText? condition = some c)
    (hu : ofText? user = some u) :
    (AgreeOnNumbers c u ↔ ∀ d ∈ condition.toList.takeWhile (!isMark ·) ++
      user.toList.takeWhile (!isMark ·), d.toNat < 128) ∧
    ∀ i < min c.components.length u.components.length, ComparesTexts c u i ↔
      ∃ w a, (compared c u c.parts u.parts)[i]? = some (w, a) ∧ ∃ d ∈ w ++ a, 128 ≤ d.toNat := by
  obtain ⟨pc, wc⟩ := ofChars?_eq_some_iff.mp hc
  obtain ⟨pu, wu⟩ := ofChars?_eq_some_iff.mp hu
  refine ⟨?_, fun i hi => comparesTexts_iff pc pu (Nat.lt_min.mp hi).1 (Nat.lt_min.mp hi).2⟩
  rw [wc, wu, List.forall_mem_append, ← pc.isNumeric_iff, ← pu.isNumeric_iff,
    ← List.forall_mem_append]
  exact ⟨AgreeOnNumbers.numeric, .of_numeric⟩

/-- A digit of another script may stand in the suffix. -/
theorem agreeOnNumbers_iff_plain_components :
    ∃ c u, ofText? "1.10-\u0663" = some c ∧ ofText? "1.9" = some u ∧ AgreeOnNumbers c u := by
  let c : Version := ⟨["1".toList, "10".toList], .preRelease, "\u0663".toList⟩
  let u : Version := ⟨["1".toList, "9".toList], .release, []⟩
  have hc : ofText? "1.10-\u0663" = some c := by decide
  have hu : ofText? "1.9" = some u := by decide
  have ascii : ("1.10-\u0663".toList.takeWhile (!isMark ·) ++
      "1.9".toList.takeWhile (!isMark ·)).all (·.toNat < 128) = true := by decide
  exact ⟨c, u, hc, hu, (agreeOnNumbers_iff hc hu).1.mpr fun d hd =>
    of_decide_eq_true (List.all_eq_true.mp ascii d hd)⟩

/-- The Arabic digit three comes behind five, as the text that it is. -/
theorem not_agreeOnNumbers :
    ¬ ∀ (condition user : String) (c u : Version), ofText? condition = some c →
      ofText? user = some u → AgreeOnNumbers c u := by
  intro claim
  let three : List Char := "\u0663".toList
  have agree := claim "5" "\u0663" ⟨["5".toList], .release, []⟩ ⟨[three], .release, []⟩ (by decide)
    (by decide)
  have place := agree.order "5".toList List.mem_cons_self three List.mem_cons_self
  exact absurd place (by decide)

example : order "5" "\u0663" = .ok .gt := by decide

end Version

end Targeting
