import Mathlib.Data.Set.Insert
import Targeting.Proofs.Version.Grammar
import Targeting.Proofs.Version.Number

/-!
# Versions that differ in their suffixes

Where the components of two versions are the same their suffixes decide. Two suffixes of digits are
compared as numbers and all others as texts. Each of the two orders is one for itself, but they do not
fit together: ten comes behind nine as a number, and before it as a text, so a text between the two
closes a circle. Without such a text the place of one version relative to another one is a preorder.

A pre-release should also stand below every build of the same components. Where the suffixes are texts
it does, seen from the build, and where they are numbers only these count.

## Main definitions

* `Version.placeOfSuffix` — the place of a suffix of a pre-release relative to another one
* `Version.IsTriple` — releases and pre-releases with three components of ASCII digits
* `Version.Crosses` — a text that stands between two numbers the other way round

## Main results

* `Version.compareWith_of_isTriple` — the components decide, and then the suffixes
* `Version.isPreorder_iff` — the places are those of a preorder if and only if nothing crosses
* `Version.not_isPreorder` — nine, ten and a text between them
* `Version.below_build_iff`, `Version.not_below_build` — a pre-release and a build of the same components
-/

namespace Targeting.Version

variable {a b c u v : Version} {p q r s t : List Char}

/-! ### Texts in their order -/

instance : Std.TransCmp compareTexts where
  eq_swap {s t} := (swap_compareTexts t s).symm
  isLE_trans {s t r} st tr := by
    rw [compareTexts_eq] at st tr ⊢
    exact Std.TransCmp.isLE_trans st tr

/-! ### Suffixes of pre-releases -/

/-- The place of a suffix relative to another one; no suffix at all stands above every suffix. -/
def placeOfSuffix : (wanted actual : List Char) → Ordering
  | [], [] => .eq
  | [], _ :: _ => .lt
  | _ :: _, [] => .gt
  | w :: ws, a :: as =>
    if isNumeric (a :: as) && isNumeric (w :: ws) then compareNumbers (a :: as) (w :: ws)
    else compareTexts (a :: as) (w :: ws)

theorem placeOfSuffix_of_ne_nil (hp : p ≠ []) (hq : q ≠ []) :
    placeOfSuffix p q = if isNumeric q && isNumeric p then compare (number q) (number p)
      else compareTexts q p := by
  cases p with
  | nil => exact absurd rfl hp
  | cons w ws =>
    cases q with
    | nil => exact absurd rfl hq
    | cons a as =>
      rw [placeOfSuffix]
      split
      · next numeric =>
        rw [Bool.and_eq_true] at numeric
        exact compareNumbers_eq numeric.1 numeric.2
      · rfl

theorem swap_placeOfSuffix (p q : List Char) : (placeOfSuffix p q).swap = placeOfSuffix q p := by
  by_cases hp : p = []
  · subst hp
    cases q <;> rfl
  by_cases hq : q = []
  · subst hq
    cases p with
    | nil => rfl
    | cons => rfl
  rw [placeOfSuffix_of_ne_nil hp hq, placeOfSuffix_of_ne_nil hq hp, Bool.and_comm]
  split
  · exact (Std.OrientedCmp.eq_swap).symm
  · exact swap_compareTexts q p

/-- A text stands between two numbers, but the lower one of them as a text is not the lower one as a
number. -/
def CrossesSuffixes (text low high : List Char) : Prop :=
  isNumeric low = true ∧ isNumeric high = true ∧ isNumeric text = false ∧
    number high ≤ number low ∧ compareTexts low text = .lt ∧ compareTexts text high = .lt

instance (text low high : List Char) : Decidable (CrossesSuffixes text low high) :=
  inferInstanceAs (Decidable (_ ∧ _ ∧ _ ∧ _ ∧ _ ∧ _))

section Circle

variable {text low high : List Char}

theorem isLE_placeOfSuffix (hp : p ≠ []) (hq : q ≠ []) : (placeOfSuffix p q).isLE = true ↔
    if isNumeric q && isNumeric p then number q ≤ number p
    else (compareTexts q p).isLE = true := by
  rw [placeOfSuffix_of_ne_nil hp hq]
  split
  · exact Nat.isLE_compare
  · exact Iff.rfl

/-- Different texts that do not stand one way round stand the other way round. -/
theorem compareTexts_eq_lt (other : isNumeric s ≠ isNumeric t)
    (le : (compareTexts s t).isLE = true) : compareTexts s t = .lt := by
  refine (Ordering.isLE_iff_eq_lt_or_eq_eq.mp le).resolve_right fun same => other ?_
  rw [compareTexts_eq_iff_eq.mp same]

/-- A text that crosses two numbers closes a circle. -/
theorem CrossesSuffixes.circle (h : CrossesSuffixes text low high) :
    (placeOfSuffix text low).isLE = true ∧ (placeOfSuffix low high).isLE = true ∧
      ¬ (placeOfSuffix text high).isLE = true := by
  obtain ⟨hl, hh, ht, le, below, above⟩ := h
  have low_ne : low ≠ [] := (isNumeric_iff.mp hl).1
  have high_ne : high ≠ [] := (isNumeric_iff.mp hh).1
  have text_ne : text ≠ [] := by
    rintro rfl
    cases low <;> exact absurd below (by simp [compareTexts])
  rw [isLE_placeOfSuffix text_ne low_ne, isLE_placeOfSuffix low_ne high_ne,
    isLE_placeOfSuffix text_ne high_ne, ht, hl, hh, Bool.and_false]
  exact ⟨Ordering.isLE_of_eq_lt below, le, Std.OrientedCmp.not_isLE_of_lt above⟩

/-- Where the suffixes close a circle, one of them is a text that crosses the other two. -/
theorem exists_crossesSuffixes (pq : (placeOfSuffix p q).isLE = true)
    (qr : (placeOfSuffix q r).isLE = true) (pr : ¬ (placeOfSuffix p r).isLE = true) :
    CrossesSuffixes p q r ∨ CrossesSuffixes q r p ∨ CrossesSuffixes r p q := by
  -- No suffix at all stands highest, so all three are there.
  have hp : p ≠ [] := by
    rintro rfl
    cases r <;> exact pr rfl
  have hq : q ≠ [] := by
    rintro rfl
    cases p with
    | nil => exact hp rfl
    | cons => exact Bool.false_ne_true pq
  have hr : r ≠ [] := by
    rintro rfl
    cases q with
    | nil => exact hq rfl
    | cons => exact Bool.false_ne_true qr
  rw [isLE_placeOfSuffix hp hq] at pq
  rw [isLE_placeOfSuffix hq hr] at qr
  rw [isLE_placeOfSuffix hp hr] at pr
  have texts (pq : (compareTexts q p).isLE = true) (qr : (compareTexts r q).isLE = true) :
      (compareTexts r p).isLE = true := Std.TransCmp.isLE_trans qr pq
  have above {s t : List Char} (h : ¬ (compareTexts s t).isLE = true) : compareTexts t s = .lt :=
    Std.OrientedCmp.lt_of_not_isLE h
  cases np : isNumeric p <;> cases nq : isNumeric q <;> cases nr : isNumeric r <;>
    simp only [np, nq, nr, Bool.and_true, Bool.and_false, Bool.false_eq_true, if_false,
      if_true] at pq qr pr
  -- Three numbers are in order, and so are three suffixes no two of which are numbers.
  case true.true.true => omega
  case false.true.true =>
    exact .inl ⟨nq, nr, np, qr, compareTexts_eq_lt (by simp [np, nq]) pq, above pr⟩
  case true.false.true =>
    exact .inr (.inl ⟨nr, np, nq, by omega, compareTexts_eq_lt (by simp [nq, nr]) qr,
      compareTexts_eq_lt (by simp [np, nq]) pq⟩)
  case true.true.false =>
    exact .inr (.inr ⟨np, nq, nr, pq, above pr, compareTexts_eq_lt (by simp [nq, nr]) qr⟩)
  all_goals exact absurd (texts pq qr) pr

end Circle

/-! ### Releases and pre-releases with three components -/

/-- A release or a pre-release with three components of ASCII digits; a pre-release has a suffix. -/
structure IsTriple (v : Version) : Prop where
  proper : v.IsProper
  three : v.components.length = 3
  ascii : v.IsAscii
  stage : v.stage = .release ∨ v.stage = .preRelease ∧ v.suffix ≠ []

instance (v : Version) : Decidable v.IsTriple :=
  decidable_of_iff (v.IsProper ∧ v.components.length = 3 ∧ v.IsAscii ∧
      (v.stage = .release ∨ v.stage = .preRelease ∧ v.suffix ≠ []))
    ⟨fun ⟨proper, three, ascii, stage⟩ => ⟨proper, three, ascii, stage⟩,
      fun h => ⟨h.proper, h.three, h.ascii, h.stage⟩⟩

theorem parts_eq (v : Version) :
    v.parts = v.components ++ (if v.suffix.isEmpty then [] else [v.suffix]) := rfl

theorem comparePart_of_preReleases (hc : c.isPreRelease = true) (hu : u.isPreRelease = true)
    (w a : List Char) : comparePart c u w a
      = if isNumeric a && isNumeric w then compareNumbers a w else compareTexts a w := by
  simp only [comparePart, hc, hu]
  split
  · rfl
  · cases compareTexts a w <;> rfl

theorem compareParts_suffix (hc : c.IsTriple) (hu : u.IsTriple) :
    compareParts c u (if c.suffix.isEmpty then [] else [c.suffix])
      (if u.suffix.isEmpty then [] else [u.suffix]) = placeOfSuffix c.suffix u.suffix := by
  have pre {v : Version} (h : v.stage = .preRelease) : v.isPreRelease = true := beq_iff_eq.mpr h
  have bare {v : Version} (h : v.IsTriple) (release : v.stage = .release) : v.suffix = [] :=
    h.proper.bare release
  -- A suffix is missing exactly from a release, so these are the cases of who has one.
  rcases hc.stage with cr | ⟨cp, cs⟩ <;> rcases hu.stage with ur | ⟨up, us⟩
  · simp [bare hc cr, bare hu ur, compareParts, not_isPreRelease ur, placeOfSuffix]
  · obtain ⟨a, as, suffix⟩ := List.exists_cons_of_ne_nil us
    simp [bare hc cr, suffix, compareParts, not_isPreRelease cr, pre up, placeOfSuffix]
  · obtain ⟨w, ws, suffix⟩ := List.exists_cons_of_ne_nil cs
    have marked : c.isMarked = true := by simp [isMarked, cp]
    simp [bare hu ur, suffix, compareParts, marked, placeOfSuffix]
  · obtain ⟨a, as, actual⟩ := List.exists_cons_of_ne_nil us
    obtain ⟨w, ws, wanted⟩ := List.exists_cons_of_ne_nil cs
    simp [actual, wanted, compareParts, comparePart_of_preReleases (pre cp) (pre up), pre cp,
      placeOfSuffix]

/-- The components decide, and then the suffixes. -/
theorem compareWith_of_isTriple (hc : c.IsTriple) (hu : u.IsTriple) :
    compareWith c u
      = (compare u.numbers c.numbers).then (placeOfSuffix c.suffix u.suffix) := by
  rw [compareWith, parts_eq, parts_eq,
    compareParts_append c u hc.ascii hu.ascii (hu.three.trans hc.three.symm),
    compareParts_suffix hc hu]
  rfl

theorem swap_compareWith (hc : c.IsTriple) (hu : u.IsTriple) :
    (compareWith c u).swap = compareWith u c := by
  rw [compareWith_of_isTriple hc hu, compareWith_of_isTriple hu hc, Ordering.swap_then,
    swap_placeOfSuffix, ← Std.OrientedCmp.eq_swap]

/-- A version is at most another one by its components, or by its suffix if these are the same. -/
theorem isLE_compareWith (hc : c.IsTriple) (hu : u.IsTriple) : (compareWith c u).isLE = true ↔
    compare u.numbers c.numbers = .lt ∨
      u.numbers = c.numbers ∧ (placeOfSuffix c.suffix u.suffix).isLE = true := by
  rw [compareWith_of_isTriple hc hu, Ordering.isLE_then_iff_or,
    Std.LawfulEqCmp.compare_eq_iff_eq]

/-- Three pre-releases of the same components, two with numbers and one with a text as its suffix, and
the text stands between the numbers the other way round. -/
def Crosses (text low high : Version) : Prop :=
  text.numbers = low.numbers ∧ low.numbers = high.numbers ∧
    CrossesSuffixes text.suffix low.suffix high.suffix

instance (text low high : Version) : Decidable (Crosses text low high) :=
  inferInstanceAs (Decidable (_ ∧ _ ∧ _))

theorem Crosses.circle (h : Crosses a b c) (ha : a.IsTriple) (hb : b.IsTriple) (hc : c.IsTriple) :
    (compareWith a b).isLE = true ∧ (compareWith b c).isLE = true ∧
      ¬ (compareWith a c).isLE = true := by
  obtain ⟨ab, bc, crosses⟩ := h
  obtain ⟨low, high, circle⟩ := crosses.circle
  rw [isLE_compareWith ha hb, isLE_compareWith hb hc, isLE_compareWith ha hc, ab, bc]
  refine ⟨.inr ⟨rfl, low⟩, .inr ⟨rfl, high⟩, ?_⟩
  have same : compare c.numbers c.numbers = .eq := Std.ReflCmp.compare_self
  rintro (less | ⟨-, le⟩)
  · rw [same] at less
    exact Ordering.noConfusion less
  · exact circle le

/-- Where three versions close a circle, one of them crosses the other two. -/
theorem exists_crosses (ha : a.IsTriple) (hb : b.IsTriple) (hc : c.IsTriple)
    (ab : (compareWith a b).isLE = true) (bc : (compareWith b c).isLE = true)
    (ac : ¬ (compareWith a c).isLE = true) : Crosses a b c ∨ Crosses b c a ∨ Crosses c a b := by
  rw [isLE_compareWith ha hb] at ab
  rw [isLE_compareWith hb hc] at bc
  rw [isLE_compareWith ha hc, not_or] at ac
  -- The components alone are in order, so they are the same.
  rcases ab with ab | ⟨ab, pq⟩
  · rcases bc with bc | ⟨bc, -⟩
    · exact absurd (Std.TransCmp.lt_trans bc ab) ac.1
    · exact absurd (bc ▸ ab) ac.1
  · rcases bc with bc | ⟨bc, qr⟩
    · exact absurd (ab ▸ bc) ac.1
    · have pr : ¬ (placeOfSuffix a.suffix c.suffix).isLE = true :=
        fun le => ac.2 ⟨bc.trans ab, le⟩
      rcases exists_crossesSuffixes pq qr pr with crosses | crosses | crosses
      · exact .inl ⟨ab.symm, bc.symm, crosses⟩
      · exact .inr (.inl ⟨bc.symm, bc.trans ab, crosses⟩)
      · exact .inr (.inr ⟨bc.trans ab, ab.symm, crosses⟩)

/-- On versions of this sort the place of one relative to another one is the reverse of the other way
round. And they are in one order, as a preorder has it, if and only if no text among their suffixes
crosses two numbers. -/
theorem isPreorder_iff {S : Set Version} (triples : ∀ v ∈ S, v.IsTriple) :
    (∀ a ∈ S, ∀ b ∈ S, ∃ place, order a.text b.text = .ok place ∧
      order b.text a.text = .ok place.swap) ∧
    ((∀ a ∈ S, ∀ b ∈ S, ∀ c ∈ S, order a.text b.text ≠ .ok .gt → order b.text c.text ≠ .ok .gt →
        order a.text c.text ≠ .ok .gt) ↔
      ∀ text ∈ S, ∀ low ∈ S, ∀ high ∈ S, ¬ Crosses text low high) := by
  have place {a b : Version} (ha : a ∈ S) (hb : b ∈ S) :
      order a.text b.text = .ok (compareWith a b) :=
    order_text (triples a ha).proper (triples b hb).proper
  have notGreater {a b : Version} (ha : a ∈ S) (hb : b ∈ S) :
      order a.text b.text ≠ .ok .gt ↔ (compareWith a b).isLE = true := by
    rw [place ha hb, Ne, Except.ok.injEq, Ordering.ne_gt_iff_isLE]
  constructor
  · intro a ha b hb
    refine ⟨_, place ha hb, ?_⟩
    rw [place hb ha, swap_compareWith (triples a ha) (triples b hb)]
  constructor
  · intro transitive text ht low hl high hh crosses
    obtain ⟨below, between, circle⟩ := crosses.circle (triples _ ht) (triples _ hl) (triples _ hh)
    refine circle ((notGreater ht hh).mp (transitive text ht low hl high hh ?_ ?_))
    · exact (notGreater ht hl).mpr below
    · exact (notGreater hl hh).mpr between
  · intro apart a ha b hb c hc ab bc
    rw [notGreater ha hb] at ab
    rw [notGreater hb hc] at bc
    rw [notGreater ha hc]
    by_contra ac
    rcases exists_crosses (triples a ha) (triples b hb) (triples c hc) ab bc ac
      with crosses | crosses | crosses
    · exact apart a ha b hb c hc crosses
    · exact apart b hb c hc a ha crosses
    · exact apart c hc a ha b hb crosses

/-- The release 1.0.0, or what comes before or behind it. -/
def one (stage : Stage) (suffix : String) : Version :=
  ⟨["1".toList, "0".toList, "0".toList], stage, suffix.toList⟩

/-- The release 1.0.0 with some of its pre-releases: the text stands behind both numbers. -/
def uncrossed : List Version :=
  [one .release "", one .preRelease "9", one .preRelease "10", one .preRelease "rc.1"]

/-- The release stands above the text, and the text above nine. -/
theorem isPreorder_uncrossed :
    order (one .release "").text (one .preRelease "9").text ≠ .ok .gt := by
  have triples : ∀ v ∈ uncrossed, v.IsTriple := by decide
  have apart : ∀ text ∈ uncrossed, ∀ low ∈ uncrossed, ∀ high ∈ uncrossed,
      ¬ Crosses text low high := by decide
  have release : one .release "" ∈ uncrossed := by decide
  have nine : one .preRelease "9" ∈ uncrossed := by decide
  have text : one .preRelease "rc.1" ∈ uncrossed := by decide
  have transitive := (isPreorder_iff (S := {v | v ∈ uncrossed}) triples).2.mpr apart
  apply transitive _ release _ text _ nine
  · decide
  · decide

/-- Nine comes before ten, this one before the text that begins with a five, and this text before nine. -/
theorem not_isPreorder :
    ¬ ∀ a b c : Version, a.IsTriple → b.IsTriple → c.IsTriple → order a.text b.text ≠ .ok .gt →
      order b.text c.text ≠ .ok .gt → order a.text c.text ≠ .ok .gt := by
  intro claim
  have above : order (one .preRelease "5a").text (one .preRelease "9").text = .ok .gt := by decide
  exact claim (one .preRelease "5a") (one .preRelease "10") (one .preRelease "9") (by decide)
    (by decide) (by decide) (by decide) (by decide) above

/-! ### A pre-release and a build -/

section Stages

variable {parts : List (List Char)} (hp : ∀ part ∈ parts, isNumeric part = true) (hs : s ≠ [])
  (ht : t ≠ [])
include hp hs ht

/-- Seen from a build, a pre-release of the same components is lower, unless the suffixes are numbers
and its number is the greater one. -/
theorem compareWith_build : compareWith ⟨parts, .build, t⟩ ⟨parts, .preRelease, s⟩
    = if isNumeric s && isNumeric t && decide (number t < number s) then .gt else .lt := by
  have same : compare (parts.map number) (parts.map number) = .eq := Std.ReflCmp.compare_self
  rw [compareWith, parts_eq, parts_eq, compareParts_append _ _ hp hp rfl, same, Ordering.eq_then]
  simp only [List.isEmpty_iff, hs, ht, if_false, compareParts]
  cases numeric : isNumeric s && isNumeric t with
  | true =>
    rw [Bool.and_eq_true] at numeric
    rw [comparePart_of_isNumeric _ _ numeric.2 numeric.1]
    rcases Nat.lt_trichotomy (number s) (number t) with less | same | more
    · simp [Nat.compare_eq_lt.mpr less, Nat.lt_asymm less]
    · simp [same, isPreRelease]
    · simp [Nat.compare_eq_gt.mpr more, more]
  | false =>
    -- As texts the pre-release is lower whichever way they stand.
    simp only [comparePart, numeric]
    cases compareTexts s t <;> simp [isPreRelease]

/-- Seen from a pre-release, a build of the same components is higher, unless the suffixes are the same
or are numbers and its number is not the greater one. -/
theorem compareWith_preRelease : compareWith ⟨parts, .preRelease, s⟩ ⟨parts, .build, t⟩
    = if isNumeric s && isNumeric t then compare (number t) (number s)
      else if s = t then .eq else .gt := by
  have same : compare (parts.map number) (parts.map number) = .eq := Std.ReflCmp.compare_self
  rw [compareWith, parts_eq, parts_eq, compareParts_append _ _ hp hp rfl, same, Ordering.eq_then]
  simp only [List.isEmpty_iff, hs, ht, if_false, compareParts]
  cases numeric : isNumeric s && isNumeric t with
  | true =>
    rw [Bool.and_eq_true] at numeric
    rw [comparePart_of_isNumeric _ _ numeric.1 numeric.2]
    simp [isPreRelease]
  | false =>
    simp only [comparePart, Bool.and_comm (isNumeric t), numeric]
    cases place : compareTexts t s with
    | eq => simp [compareTexts_eq_iff_eq.mp place, isPreRelease]
    | lt | gt =>
      have other : s ≠ t := by
        rintro rfl
        rw [compareTexts_eq_iff_eq.mpr rfl] at place
        exact Ordering.noConfusion place
      simp [other, isPreRelease]

end Stages

/-- A version with three components of ASCII digits and a suffix is read as it is written. -/
theorem isProper_of_three {parts : List (List Char)} (stage : Stage) (three : parts.length = 3)
    (digits : ∀ part ∈ parts, isNumeric part = true)
    (unbroken : ∀ c ∈ s, Text.isBlank c = false) (marked : stage ≠ .release) :
    (⟨parts, stage, s⟩ : Version).IsProper where
  nonempty := by
    rintro rfl
    exact absurd three (by decide)
  few := three.le
  digits part hp := isDigitRun_of_isNumeric (digits part hp)
  unbroken := unbroken
  bare release := absurd release marked

/-- A pre-release with the suffix `s` and a build with the suffix `t` of the same three components. Seen
from the build the pre-release is lower if and only if they are not two numbers of which `s` is the
greater one. Seen from the pre-release the build is higher if and only if the suffixes differ and are not
two numbers of which `t` is at most the other one. -/
theorem below_build_iff {parts : List (List Char)} (three : parts.length = 3)
    (digits : ∀ part ∈ parts, isNumeric part = true) (hs : s ≠ []) (ht : t ≠ [])
    (unbroken : ∀ c ∈ s ++ t, Text.isBlank c = false) :
    (∃ place, order (text ⟨parts, .build, t⟩) (text ⟨parts, .preRelease, s⟩) = .ok place ∧
      (place = .lt ↔ ¬ (isNumeric s = true ∧ isNumeric t = true ∧ number t < number s))) ∧
    ∃ place, order (text ⟨parts, .preRelease, s⟩) (text ⟨parts, .build, t⟩) = .ok place ∧
      (place = .gt ↔
        s ≠ t ∧ ¬ (isNumeric s = true ∧ isNumeric t = true ∧ number t ≤ number s)) := by
  obtain ⟨us, ut⟩ := List.forall_mem_append.mp unbroken
  have pre := isProper_of_three .preRelease three digits us (by decide)
  have build := isProper_of_three .build three digits ut (by decide)
  constructor
  · refine ⟨_, order_text build pre, ?_⟩
    rw [compareWith_build digits hs ht]
    by_cases greater : number t < number s <;> cases isNumeric s <;> cases isNumeric t <;>
      simp [greater]
  · refine ⟨_, order_text pre build, ?_⟩
    rw [compareWith_preRelease digits hs ht]
    by_cases same : s = t
    · subst same
      cases isNumeric s <;> simp
    · cases isNumeric s <;> cases isNumeric t <;> simp [same, Nat.compare_eq_gt]

theorem below_build_of_words :
    ∃ place, order "1.0.0+rc.1" "1.0.0-7" = .ok place ∧ place = .lt := by
  have three : ["1".toList, "0".toList, "0".toList].length = 3 := rfl
  have law := below_build_iff (s := "7".toList) (t := "rc.1".toList) three (by decide) (by decide)
    (by decide) (Text.all_not_isBlank_iff.mp (by decide))
  obtain ⟨place, found, below⟩ := law.1
  exact ⟨place, found, below.mpr (by decide)⟩

/-- Of two numbers only the numbers count, and seen from a pre-release a build with the same suffix is
the same. -/
theorem not_below_build :
    ¬ ∀ (parts : List (List Char)) (s t : List Char), parts.length = 3 →
      (∀ part ∈ parts, isNumeric part = true) → s ≠ [] → t ≠ [] →
      (∀ c ∈ s ++ t, Text.isBlank c = false) →
      order (text ⟨parts, .build, t⟩) (text ⟨parts, .preRelease, s⟩) = .ok .lt ∧
        order (text ⟨parts, .preRelease, s⟩) (text ⟨parts, .build, t⟩) = .ok .gt := by
  intro claim
  have law := claim ["1".toList, "0".toList, "0".toList] "5".toList "3".toList rfl (by decide)
    (by decide) (by decide) (Text.all_not_isBlank_iff.mp (by decide))
  have above : order "1.0.0+3" "1.0.0-5" = .ok .gt := by decide
  have both := above.symm.trans law.1
  exact absurd both (by decide)

end Targeting.Version
