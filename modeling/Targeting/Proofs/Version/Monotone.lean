import Mathlib.Data.List.Lex
import Targeting.Proofs.Condition.Rules
import Targeting.Proofs.Version.Grammar
import Targeting.Proofs.Version.Number

/-!
# Later versions of the user's

Seen from one version of a condition, a later release of the user's should never stand lower than an
earlier one. As long as numbers are compared with numbers this is so, since the first two that differ
decide. But there are two ways to leave the comparison of numbers, and by each of them an earlier release
may stand higher than a later one:

* It breaks off before the parts of the condition's version are over. If this version has a mark, it counts
  as the higher one then, but a later release that goes on from there is compared on, and may come down.
* It meets the first part that is no number, be it a suffix or a component with digits of another script.
  Unless the condition's version is a pre-release, its own part is compared with this one as a text, and the
  part of a later release may be the lower text.

There are no others.

## Main definitions

* `Version.rank` — the places in their order
* `Version.IsRelease` — versions of ASCII digits and dots only
* `Version.opening`, `Version.firstText?` — the numbers that parts begin with, and what ends them
* `Version.FallsShort`, `Version.Straddles` — the two ways in which an earlier release stands higher

## Main results

* `Version.compareParts_ne_gt_iff` — when a release comes down to a version with a mark
* `Version.rank_compareParts_le_iff` — when later parts have no lower place
* `Version.order_monotone_iff` — when a later version has no lower place, and so is accepted by the lower
  bounds that accept an earlier one, and the other way round for upper bounds
* `Version.not_order_monotone` — a version in each of the two ways
-/

namespace Targeting

namespace Version

/-- The places in their order: lower, equal, higher. -/
def rank : Ordering → Nat
  | .lt => 0
  | .eq => 1
  | .gt => 2

/-- Whether a version consists of ASCII digits and dots only. -/
structure IsRelease (v : Version) : Prop where
  ascii : v.IsAscii
  release : v.stage = .release

/-- The numbers that parts begin with. -/
def opening (parts : List (List Char)) : List Nat := (parts.takeWhile isNumeric).map number

/-- The first part that is no number. -/
def firstText? (parts : List (List Char)) : Option (List Char) := parts.find? (!isNumeric ·)

section Exceptions

variable (condition : Version) (wanted : List (List Char))

/-- Parts that are compared to the end do not stand above those of a condition's version. They agree with
all of its parts, and these are numbers; or they have the lower number where they first differ; or they meet
a text with a lower one. -/
def ComesDown (actual : List (List Char)) : Prop :=
  firstText? wanted = none ∧ opening wanted <+: actual.map number ∨
  actual.map number < opening wanted ∧ ¬ actual.map number <+: opening wanted ∨
  condition.isPreRelease = false ∧ opening wanted <+: actual.map number ∧
    ∃ text ∈ firstText? wanted, ∃ part ∈ actual[(opening wanted).length]?, compareTexts part text = .lt

/-- The lower parts agree with those of a marked version and break off before these are over; the upper ones
go on from there, and come down. -/
def FallsShort (lower upper : List (List Char)) : Prop :=
  condition.isMarked = true ∧ lower.length < wanted.length ∧ lower.map number <+: opening wanted ∧
    lower.length < upper.length ∧ lower.map number <+: upper.map number ∧
    ComesDown condition wanted upper

/-- The version is no pre-release, and both agree with it up to its first text. The lower one meets this with
a higher text, and the upper one with a lower text. -/
def Straddles (lower upper : List (List Char)) : Prop :=
  condition.isPreRelease = false ∧ opening wanted <+: lower.map number ∧
    opening wanted <+: upper.map number ∧
    ∃ text ∈ firstText? wanted, ∃ a ∈ lower[(opening wanted).length]?,
      ∃ b ∈ upper[(opening wanted).length]?, compareTexts a text = .gt ∧ compareTexts b text = .lt

instance (actual : List (List Char)) : Decidable (ComesDown condition wanted actual) :=
  inferInstanceAs (Decidable (_ ∨ _ ∨ _))

instance (lower upper : List (List Char)) : Decidable (FallsShort condition wanted lower upper) :=
  inferInstanceAs (Decidable (_ ∧ _ ∧ _ ∧ _ ∧ _ ∧ _))

instance (lower upper : List (List Char)) : Decidable (Straddles condition wanted lower upper) :=
  inferInstanceAs (Decidable (_ ∧ _ ∧ _ ∧ _))

end Exceptions

variable {c u v : Version} {w a b : List Char} {ws as bs : List (List Char)}

theorem rank_le (o : Ordering) : rank o ≤ 2 := by
  cases o <;> decide

/-- Of two places that differ from the condition's only those that lie on both sides of it can be in the
wrong order. -/
theorem rank_le_iff {p q : Ordering} (hp : p ≠ .eq) (hq : q ≠ .eq) :
    rank p ≤ rank q ↔ ¬ (p = .gt ∧ q = .lt) := by
  revert hp hq
  cases p <;> cases q <;> decide

/-! ### Parts in front -/

@[simp] theorem opening_nil : opening [] = [] := rfl

@[simp] theorem firstText?_nil : firstText? [] = none := rfl

theorem opening_cons_of_number (h : isNumeric w = true) : opening (w :: ws) = number w :: opening ws := by
  simp [opening, h]

theorem opening_cons_of_text (h : isNumeric w = false) : opening (w :: ws) = [] := by
  simp [opening, h]

theorem firstText?_cons_of_number (h : isNumeric w = true) : firstText? (w :: ws) = firstText? ws := by
  simp [firstText?, h]

theorem firstText?_cons_of_text (h : isNumeric w = false) : firstText? (w :: ws) = some w := by
  simp [firstText?, h]

section Cons

variable (hw : isNumeric w = true) (ha : number a = number w)
include hw ha

theorem comesDown_cons : ComesDown c (w :: ws) (a :: as) ↔ ComesDown c ws as := by
  simp [ComesDown, opening_cons_of_number hw, firstText?_cons_of_number hw, ha, List.cons_prefix_cons]

theorem fallsShort_cons (hb : number b = number w) :
    FallsShort c (w :: ws) (a :: as) (b :: bs) ↔ FallsShort c ws as bs := by
  simp [FallsShort, opening_cons_of_number hw, ha, hb, comesDown_cons hw hb, List.cons_prefix_cons]

theorem straddles_cons (hb : number b = number w) :
    Straddles c (w :: ws) (a :: as) (b :: bs) ↔ Straddles c ws as bs := by
  simp [Straddles, opening_cons_of_number hw, firstText?_cons_of_number hw, ha, hb, List.cons_prefix_cons]

end Cons

theorem not_comesDown_nil : ¬ ComesDown c (w :: ws) [] := by
  cases hw : isNumeric w with
  | false => simp [ComesDown, opening_cons_of_text hw, firstText?_cons_of_text hw]
  | true => simp [ComesDown, opening_cons_of_number hw]

/-- In both exceptions the numbers in front are the same in all three versions. -/
theorem not_fallsShort_of_ne (hw : isNumeric w = true)
    (differ : number a ≠ number w ∨ number a ≠ number b) :
    ¬ FallsShort c (w :: ws) (a :: as) (b :: bs) := by
  simp only [FallsShort, opening_cons_of_number hw, List.map_cons, List.cons_prefix_cons]
  tauto

theorem not_straddles_of_ne (hw : isNumeric w = true)
    (differ : number w ≠ number a ∨ number w ≠ number b) :
    ¬ Straddles c (w :: ws) (a :: as) (b :: bs) := by
  simp only [Straddles, opening_cons_of_number hw, List.map_cons, List.cons_prefix_cons]
  tauto

/-- One list of numbers is at most another one by its first number, or by what comes behind it. -/
theorem lt_or_le_of_cons_le_cons {n m : Nat} {L U : List Nat} (h : n :: L ≤ m :: U) :
    n < m ∨ n = m ∧ L ≤ U := by
  rcases Nat.lt_trichotomy n m with less | rfl | more
  · exact .inl less
  · exact .inr ⟨rfl, not_lt.mp fun less => not_lt.mpr h (List.Lex.cons less)⟩
  · exact absurd (List.Lex.rel more) (not_lt.mpr h)

/-! ### Texts -/

/-- A number is never the same as a part that is none. -/
theorem compareTexts_ne_eq (text : isNumeric w = false) (ha : isNumeric a = true) :
    compareTexts a w ≠ .eq := by
  intro same
  rw [compareTexts_eq_iff_eq.mp same, text] at ha
  exact Bool.false_ne_true ha

/-- A component of a release that meets a text stands above that of a pre-release. -/
theorem comparePart_of_text (hu : u.isPreRelease = false) (text : isNumeric w = false)
    (ha : isNumeric a = true) :
    comparePart c u w a = if c.isPreRelease then .gt else compareTexts a w := by
  cases place : compareTexts a w with
  | eq => exact absurd place (compareTexts_ne_eq text ha)
  | lt | gt => cases pre : c.isPreRelease <;> simp [comparePart, text, place, pre, hu]

theorem compareParts_of_text (hu : u.isPreRelease = false) (text : isNumeric w = false)
    (ha : isNumeric a = true) :
    compareParts c u (w :: ws) (a :: as) = if c.isPreRelease then .gt else compareTexts a w := by
  rw [compareParts_cons_cons, comparePart_of_text hu text ha]
  cases place : compareTexts a w with
  | eq => exact absurd place (compareTexts_ne_eq text ha)
  | lt | gt => cases c.isPreRelease <;> rfl

/-! ### All parts -/

/-- The greater one of two numbers has no lower place, whatever comes behind them. -/
theorem rank_then_le {x y n : Nat} (less : x < y) (p q : Ordering) :
    rank ((compare x n).then p) ≤ rank ((compare y n).then q) := by
  rcases Nat.lt_or_ge x n with below | above
  · rw [Nat.compare_eq_lt.mpr below]
    exact Nat.zero_le _
  · rw [Nat.compare_eq_gt.mpr (above.trans_lt less)]
    exact rank_le _

section Parts

variable (hu : u.isPreRelease = false) (ha : ∀ a ∈ as, isNumeric a = true)
include hu ha

/-- A release that does not stand above a version with a mark has come down to it. -/
theorem compareParts_ne_gt_iff (marked : c.isMarked = true) :
    compareParts c u ws as ≠ .gt ↔ ComesDown c ws as := by
  induction ws generalizing as with
  | nil => simp [compareParts, hu, ComesDown]
  | cons w ws ih =>
    cases as with
    | nil =>
      rw [compareParts, if_pos marked]
      exact iff_of_false (not_not_intro rfl) not_comesDown_nil
    | cons a as =>
      obtain ⟨first, rest⟩ := List.forall_mem_cons.mp ha
      cases hw : isNumeric w with
      | false =>
        rw [compareParts_of_text hu hw first]
        have other := compareTexts_ne_eq hw first
        cases place : compareTexts a w <;> cases pre : c.isPreRelease <;>
          simp_all [ComesDown, opening_cons_of_text hw, firstText?_cons_of_text hw]
      | true =>
        rw [compareParts_cons_cons, comparePart_of_isNumeric c u hw first]
        rcases Nat.lt_trichotomy (number a) (number w) with less | same | more
        · have lower : number a :: as.map number < number w :: opening ws := List.Lex.rel less
          have down : ComesDown c (w :: ws) (a :: as) := by
            refine .inr (.inl ?_)
            rw [opening_cons_of_number hw, List.map_cons, List.cons_prefix_cons]
            exact ⟨lower, fun apart => less.ne apart.1⟩
          rw [Nat.compare_eq_lt.mpr less]
          exact iff_of_true Ordering.noConfusion down
        · rw [Nat.compare_eq_eq.mpr same, Ordering.eq_then, ih rest, comesDown_cons hw same]
        · have higher : number w :: opening ws < number a :: as.map number := List.Lex.rel more
          have above : ¬ ComesDown c (w :: ws) (a :: as) := by
            rw [ComesDown, opening_cons_of_number hw, List.map_cons, List.cons_prefix_cons]
            rintro (⟨-, same, -⟩ | ⟨lower, -⟩ | ⟨-, ⟨same, -⟩, -⟩)
            · exact more.ne same
            · exact lt_asymm lower higher
            · exact more.ne same
          rw [Nat.compare_eq_gt.mpr more]
          exact iff_of_false (not_not_intro rfl) above

end Parts

/-- Later parts have no lower place, but for the two exceptions. -/
theorem rank_compareParts_le_iff (hu : u.isPreRelease = false) (hv : v.isPreRelease = false)
    (ha : ∀ a ∈ as, isNumeric a = true) (hb : ∀ b ∈ bs, isNumeric b = true)
    (le : as.map number ≤ bs.map number) :
    rank (compareParts c u ws as) ≤ rank (compareParts c v ws bs) ↔
      ¬ FallsShort c ws as bs ∧ ¬ Straddles c ws as bs := by
  -- Induction on the condition's parts, as long as all three versions have the same number.
  induction ws generalizing as bs with
  | nil => simp [compareParts, hu, hv, FallsShort, Straddles]
  | cons w ws ih =>
    cases as with
    | nil =>
      -- The lower version breaks off. With a mark it is the higher one now, and the upper one must stay so.
      have apart : ¬ Straddles c (w :: ws) [] bs := by simp [Straddles]
      cases marked : c.isMarked with
      | false => simp [compareParts, marked, apart, FallsShort, rank]
      | true =>
        rw [compareParts, if_pos marked, and_iff_left apart]
        have highest : rank .gt ≤ rank (compareParts c v (w :: ws) bs) ↔
            compareParts c v (w :: ws) bs = .gt := by
          cases compareParts c v (w :: ws) bs <;> simp [rank]
        rw [highest, iff_not_comm, ← ne_eq, compareParts_ne_gt_iff hv hb marked]
        cases bs with
        | nil => exact iff_of_false (by simp [FallsShort]) not_comesDown_nil
        | cons b bs => simp [FallsShort, marked]
    | cons a as =>
      cases bs with
      | nil => exact absurd le (by simp)
      | cons b bs =>
        obtain ⟨first, has⟩ := List.forall_mem_cons.mp ha
        obtain ⟨second, hbs⟩ := List.forall_mem_cons.mp hb
        cases hw : isNumeric w with
        | false =>
          -- Both meet the first text, and what they have there decides.
          have short : ¬ FallsShort c (w :: ws) (a :: as) (b :: bs) := by
            simp [FallsShort, opening_cons_of_text hw]
          have meets : Straddles c (w :: ws) (a :: as) (b :: bs) ↔
              c.isPreRelease = false ∧ compareTexts a w = .gt ∧ compareTexts b w = .lt := by
            simp [Straddles, opening_cons_of_text hw, firstText?_cons_of_text hw]
          rw [compareParts_of_text hu hw first, compareParts_of_text hv hw second, meets,
            and_iff_right short]
          cases c.isPreRelease with
          | true => simp
          | false =>
            simpa using rank_le_iff (compareTexts_ne_eq hw first) (compareTexts_ne_eq hw second)
        | true =>
          rw [compareParts_cons_cons, compareParts_cons_cons, comparePart_of_isNumeric c u hw first,
            comparePart_of_isNumeric c v hw second]
          rcases lt_or_le_of_cons_le_cons le with less | ⟨same, le⟩
          · -- The numbers of the two differ first, so the condition's falls on one side or between them.
            exact iff_of_true (rank_then_le less _ _)
              ⟨not_fallsShort_of_ne hw (.inr less.ne), not_straddles_of_ne hw (by omega)⟩
          by_cases here : number a = number w
          · have there : number b = number w := same ▸ here
            rw [here, there, Nat.compare_eq_eq.mpr rfl, Ordering.eq_then, Ordering.eq_then,
              ih has hbs le, fallsShort_cons hw here there, straddles_cons hw here there]
          · -- Another number than the condition's decides, and it is the same in both.
            have decided : compare (number a) (number w) ≠ .eq := mt Nat.compare_eq_eq.mp here
            refine iff_of_true ?_ ⟨not_fallsShort_of_ne hw (.inl here),
              not_straddles_of_ne hw (.inl (Ne.symm here))⟩
            rw [← same]
            cases place : compare (number a) (number w) with
            | eq => exact absurd place decided
            | lt | gt => exact Nat.le_refl _

/-- A later release has no lower place, but for the two exceptions. -/
theorem rank_compareWith_le_iff (hu : u.IsProper) (hv : v.IsProper) (lower : u.IsRelease)
    (upper : v.IsRelease) (le : u.numbers ≤ v.numbers) :
    rank (compareWith c u) ≤ rank (compareWith c v) ↔
      ¬ FallsShort c c.parts u.components v.components ∧
        ¬ Straddles c c.parts u.components v.components := by
  rw [compareWith, compareWith, parts_of_isRelease hu lower.release, parts_of_isRelease hv upper.release]
  exact rank_compareParts_le_iff (not_isPreRelease lower.release) (not_isPreRelease upper.release)
    lower.ascii upper.ascii le

end Version

/-! ### Conditions on versions -/

namespace Condition

variable {k : Condition} {wanted actual : String} {place : Ordering}

/-- A version is accepted if its place is. -/
theorem judgeValue_version (value : k.value = .text wanted)
    (found : Version.order wanted actual = .ok place) (comparison : Comparison) :
    k.judgeValue (.version comparison) (.text actual) = .ok (comparison.accepts place) := by
  rw [judgeValue, judgeVersion_eq value, found]
  rfl

/-- Of two places the second is no lower one exactly if every lower bound that accepts the first accepts
it, and every upper bound that accepts it accepts the first. -/
theorem accepts_iff_rank_le {p q : Ordering} :
    ((∀ comparison ∈ [Comparison.gt, .ge], comparison.accepts p = true → comparison.accepts q = true) ∧
      ∀ comparison ∈ [Comparison.lt, .le], comparison.accepts q = true → comparison.accepts p = true) ↔
    Version.rank p ≤ Version.rank q := by
  cases p <;> cases q <;> decide

end Condition

/-! ### The order of the user's versions -/

namespace Version

/-- Let one release of the user's be at most another one by its components. The later one has no lower place
than the earlier one, relative to a condition's version of any kind, unless the earlier one falls short of it
or the two straddle its first text. And with these two exceptions every lower bound that accepts the earlier
release accepts the later one, and every upper bound that accepts the later one accepts the earlier one. -/
theorem order_monotone_iff {condition lower upper : String} {c u v : Version}
    (hc : ofText? condition = some c) (hu : ofText? lower = some u) (hv : ofText? upper = some v)
    (early : u.IsRelease) (late : v.IsRelease) (le : u.numbers ≤ v.numbers) :
    (∃ p q, order condition lower = .ok p ∧ order condition upper = .ok q ∧
      (rank p ≤ rank q ↔ ¬ FallsShort c c.parts u.components v.components ∧
        ¬ Straddles c c.parts u.components v.components)) ∧
    ∀ k : Condition, k.value = .text condition →
      (((∀ comparison ∈ [Condition.Comparison.gt, .ge],
          k.judgeValue (.version comparison) (.text lower) = .ok true →
            k.judgeValue (.version comparison) (.text upper) = .ok true) ∧
        ∀ comparison ∈ [Condition.Comparison.lt, .le],
          k.judgeValue (.version comparison) (.text upper) = .ok true →
            k.judgeValue (.version comparison) (.text lower) = .ok true) ↔
        ¬ FallsShort c c.parts u.components v.components ∧
          ¬ Straddles c c.parts u.components v.components) := by
  have below : rank (compareWith c u) ≤ rank (compareWith c v) ↔ _ :=
    rank_compareWith_le_iff (isProper_of_ofText? hu) (isProper_of_ofText? hv) early late le
  refine ⟨⟨_, _, order_eq hc hu, order_eq hc hv, below⟩, fun k value => ?_⟩
  have judged (comparison : Condition.Comparison) {actual : String} {w : Version}
      (hw : ofText? actual = some w) :
      k.judgeValue (.version comparison) (.text actual) = .ok true
        ↔ comparison.accepts (compareWith c w) = true := by
    rw [Condition.judgeValue_version value (order_eq hc hw), Except.ok.injEq]
  simp only [judged _ hu, judged _ hv]
  exact Condition.accepts_iff_rank_le.trans below

/-- The lower release breaks off in front of the suffix, and the upper one does not come down. -/
theorem order_monotone_beta :
    ∃ p q, order "1.5-beta" "1" = .ok p ∧ order "1.5-beta" "1.9" = .ok q ∧ rank p ≤ rank q := by
  obtain ⟨⟨p, q, first, second, lawful⟩, -⟩ := @order_monotone_iff "1.5-beta" "1" "1.9"
    ⟨["1".toList, "5".toList], .preRelease, "beta".toList⟩ ⟨["1".toList], .release, []⟩
    ⟨["1".toList, "9".toList], .release, []⟩ (by decide) (by decide) (by decide)
    ⟨by decide, rfl⟩ ⟨by decide, rfl⟩ (by decide)
  exact ⟨p, q, first, second, lawful.mpr ⟨by decide, by decide⟩⟩

/-- A release that ends where the condition's suffix begins stands above the condition's version, and a
later one that meets the suffix of a build with a component of its own may stand below it. So may one that
meets it with a greater number, if the numbers are compared with the suffix as texts. -/
theorem not_order_monotone :
    (order "1.0+build" "1.0" = .ok .gt ∧ order "1.0+build" "1.0.5" = .ok .lt) ∧
    (order "1.0+5a" "1.0.6" = .ok .gt ∧ order "1.0+5a" "1.0.10" = .ok .lt) ∧
    ¬ ∀ (condition lower upper : String) (c u v : Version), ofText? condition = some c →
      ofText? lower = some u → ofText? upper = some v → u.IsRelease → v.IsRelease →
      u.numbers ≤ v.numbers →
      ∃ p q, order condition lower = .ok p ∧ order condition upper = .ok q ∧ rank p ≤ rank q := by
  have above : order "1.0+build" "1.0" = .ok .gt := by decide
  have below : order "1.0+build" "1.0.5" = .ok .lt := by decide
  refine ⟨⟨above, below⟩, ⟨by decide, by decide⟩, fun claim => ?_⟩
  obtain ⟨p, q, first, second, le⟩ := claim "1.0+build" "1.0" "1.0.5"
    ⟨["1".toList, "0".toList], .build, "build".toList⟩ ⟨["1".toList, "0".toList], .release, []⟩
    ⟨["1".toList, "0".toList, "5".toList], .release, []⟩ (by decide) (by decide) (by decide)
    ⟨by decide, rfl⟩ ⟨by decide, rfl⟩ (by decide)
  rw [above] at first
  rw [below] at second
  obtain rfl := Except.ok.inj first
  obtain rfl := Except.ok.inj second
  exact absurd le (by decide)

end Version

end Targeting
