import Mathlib.Tactic.Ring
import Targeting.Version.Order

/-!
# Parts of versions as numbers and as texts

Runs of ASCII digits are compared by their length and then from the left, without ever being turned
into numbers, so that none can be too long. Here they are turned into numbers: the comparison is the
one of the numbers, and leading zeros do not matter. All other parts are compared by the codes of
their characters.

## Main definitions

* `Version.number` — the number that a run of ASCII digits stands for
* `Version.codes` — the codes of the characters of a text
* `Version.numbers`, `Version.IsAscii` — the components of a version as numbers

## Main results

* `Version.compareNumbers_eq` — digit runs compare as their numbers do
* `Version.compareTexts_eq` — texts compare as their codes do
* `Version.compareParts_append` — equally many components compare as lists of numbers do
-/

namespace Targeting.Version

variable {a b cs ds : List Char} {c d : Char}

/-- The number that a run of ASCII digits stands for. -/
def number (part : List Char) : Nat := Nat.ofDigitChars 10 part 0

/-- The codes of the characters of a text. -/
def codes (text : List Char) : List Nat := text.map Char.toNat

/-! ### Texts -/

theorem codes_inj : codes a = codes b ↔ a = b :=
  List.map_inj_right fun _ _ => Char.toNat_inj.mp

theorem compareTexts_eq (a b : List Char) : compareTexts a b = compare (codes a) (codes b) := by
  induction a generalizing b with
  | nil => cases b <;> rfl
  | cons c cs ih =>
    cases b with
    | nil => rfl
    | cons d ds =>
      rw [compareTexts, ih]
      exact List.compare_cons_cons.symm

theorem compareTexts_eq_iff_eq : compareTexts a b = .eq ↔ a = b := by
  rw [compareTexts_eq, Std.LawfulEqCmp.compare_eq_iff_eq, codes_inj]

theorem swap_compareTexts (a b : List Char) : (compareTexts a b).swap = compareTexts b a := by
  rw [compareTexts_eq, compareTexts_eq]
  exact Std.OrientedCmp.eq_swap.symm

/-! ### Digits -/

theorem code_of_isDigit (h : c.isDigit = true) : 48 ≤ c.toNat ∧ c.toNat ≤ 57 := by
  simpa [Char.isDigit, UInt32.le_iff_toNat_le] using h

theorem isNumeric_iff : isNumeric a = true ↔ a ≠ [] ∧ ∀ c ∈ a, c.isDigit = true := by
  simp [isNumeric]

/-- What stands before some digits counts as often as these have values. -/
theorem ofDigitChars_eq (cs : List Char) (n : Nat) :
    Nat.ofDigitChars 10 cs n = 10 ^ cs.length * n + number cs := by
  induction cs generalizing n with
  | nil => simp [number]
  | cons c cs ih =>
    rw [number, Nat.ofDigitChars_cons, Nat.ofDigitChars_cons, ih, ih (10 * 0 + _), List.length_cons]
    ring

theorem number_cons (c : Char) (cs : List Char) :
    number (c :: cs) = 10 ^ cs.length * (c.toNat - 48) + number cs := by
  rw [number, Nat.ofDigitChars_cons, ofDigitChars_eq, Nat.mul_zero, Nat.zero_add]
  rfl

theorem number_lt (digits : ∀ c ∈ cs, c.isDigit = true) : number cs < 10 ^ cs.length := by
  induction cs with
  | nil => exact Nat.one_pos
  | cons c cs ih =>
    obtain ⟨first, rest⟩ := List.forall_mem_cons.mp digits
    have bound := code_of_isDigit first
    calc number (c :: cs)
        = 10 ^ cs.length * (c.toNat - 48) + number cs := number_cons c cs
      _ < 10 ^ cs.length * (c.toNat - 48) + 10 ^ cs.length := Nat.add_lt_add_left (ih rest) _
      _ = 10 ^ cs.length * (c.toNat - 48 + 1) := (Nat.mul_succ ..).symm
      _ ≤ 10 ^ cs.length * 10 := Nat.mul_le_mul_left _ (by omega)
      _ = 10 ^ (c :: cs).length := (Nat.pow_succ ..).symm

theorem number_dropWhile_zero (cs : List Char) : number (cs.dropWhile (· = '0')) = number cs := by
  -- Only the zeros in front are dropped, so nothing is left to show behind the first other digit.
  induction cs with
  | nil => rfl
  | cons c cs ih =>
    by_cases zero : c = '0'
    · rw [List.dropWhile_cons_of_pos (by simpa using zero), ih, number_cons, zero]
      simp
    · rw [List.dropWhile_cons_of_neg (by simpa using zero)]

/-! ### Digit runs as numbers -/

/-- The digit on the left decides, and what stands behind it only if the digits are the same. -/
theorem compare_leading {m x y r s : Nat} (hr : r < m) (hs : s < m) :
    compare (m * x + r) (m * y + s) = (compare x y).then (compare r s) := by
  -- Whatever is less than `m` cannot make up for a lower digit on the left.
  rcases Nat.lt_trichotomy x y with less | rfl | more
  · have room : m * (x + 1) ≤ m * y := Nat.mul_le_mul_left m less
    rw [Nat.mul_succ] at room
    rw [Nat.compare_eq_lt.mpr less, Nat.compare_eq_lt.mpr (by omega)]
    rfl
  · have same : compare x x = .eq := Nat.compare_eq_eq.mpr rfl
    rw [same]
    show _ = compare r s
    simp [Nat.compare_eq_ite_lt]
  · have room : m * (y + 1) ≤ m * x := Nat.mul_le_mul_left m more
    rw [Nat.mul_succ] at room
    rw [Nat.compare_eq_gt.mpr more, Nat.compare_eq_gt.mpr (by omega)]
    rfl

theorem compare_code (hc : c.isDigit = true) (hd : d.isDigit = true) :
    compare c.toNat d.toNat = compare (c.toNat - 48) (d.toNat - 48) := by
  have first := code_of_isDigit hc
  have second := code_of_isDigit hd
  rw [Nat.compare_eq_ite_lt, Nat.compare_eq_ite_lt]
  congr 1
  · simp only [eq_iff_iff]
    omega
  · congr 1
    simp only [eq_iff_iff]
    omega

/-- Of digit runs that are equally long the text decides. -/
theorem compareTexts_of_length (ha : ∀ c ∈ a, c.isDigit = true) (hb : ∀ c ∈ b, c.isDigit = true)
    (same : a.length = b.length) : compareTexts a b = compare (number a) (number b) := by
  induction a generalizing b with
  | nil =>
    obtain rfl := List.length_eq_zero_iff.mp same.symm
    rfl
  | cons c cs ih =>
    cases b with
    | nil => exact absurd same (Nat.succ_ne_zero _)
    | cons d ds =>
      obtain ⟨hc, hcs⟩ := List.forall_mem_cons.mp ha
      obtain ⟨hd, hds⟩ := List.forall_mem_cons.mp hb
      have rest : cs.length = ds.length := Nat.succ.inj same
      rw [compareTexts, ih hcs hds rest, compare_code hc hd, number_cons, number_cons, rest]
      exact (compare_leading (rest ▸ number_lt hcs) (number_lt hds)).symm

/-- A run that does not begin with a zero uses its length. -/
theorem le_number_of_head (digits : ∀ d ∈ c :: cs, d.isDigit = true) (h : c ≠ '0') :
    10 ^ cs.length ≤ number (c :: cs) := by
  have bound := code_of_isDigit (digits c List.mem_cons_self)
  have positive : 1 ≤ c.toNat - 48 := by
    have other : c.toNat ≠ 48 := fun zero => h (Char.toNat_inj.mp zero)
    omega
  rw [number_cons]
  calc 10 ^ cs.length = 10 ^ cs.length * 1 := (Nat.mul_one _).symm
    _ ≤ 10 ^ cs.length * (c.toNat - 48) := Nat.mul_le_mul_left _ positive
    _ ≤ _ := Nat.le_add_right ..

/-- Of two runs the longer one is the greater one, if it does not begin with a zero. -/
theorem number_lt_of_length (ha : ∀ c ∈ a, c.isDigit = true) (hb : ∀ c ∈ b, c.isDigit = true)
    (h : b.head? ≠ some '0') (shorter : a.length < b.length) : number a < number b := by
  cases b with
  | nil => exact absurd shorter (Nat.not_lt_zero _)
  | cons d ds =>
    have nonzero : d ≠ '0' := fun zero => h (congrArg some zero)
    calc number a < 10 ^ a.length := number_lt ha
      _ ≤ 10 ^ ds.length := Nat.pow_le_pow_right (by decide) (Nat.lt_succ_iff.mp shorter)
      _ ≤ number (d :: ds) := le_number_of_head hb nonzero

theorem head?_dropWhile_zero (cs : List Char) : (cs.dropWhile (· = '0')).head? ≠ some '0' := by
  intro zero
  have first := List.head?_dropWhile_not (· = '0') cs
  rw [zero] at first
  simp at first

/-- Digit runs compare as their numbers do. -/
theorem compareNumbers_eq (ha : isNumeric a = true) (hb : isNumeric b = true) :
    compareNumbers a b = compare (number a) (number b) := by
  have digits {cs : List Char} (h : isNumeric cs = true) :
      ∀ c ∈ cs.dropWhile (· = '0'), c.isDigit = true :=
    fun c hc => (isNumeric_iff.mp h).2 c (List.dropWhile_subset _ hc)
  rw [← number_dropWhile_zero a, ← number_dropWhile_zero b, compareNumbers]
  have shorter {a b : List Char} (ha : isNumeric a = true) (hb : isNumeric b = true) :=
    number_lt_of_length (digits ha) (digits hb) (head?_dropWhile_zero b)
  -- No zero is in front of either of them any more, so the longer one is the greater one.
  rcases Nat.lt_trichotomy (a.dropWhile (· = '0')).length (b.dropWhile (· = '0')).length
    with less | same | more
  · rw [Nat.compare_eq_lt.mpr less, Nat.compare_eq_lt.mpr (shorter ha hb less)]
    rfl
  · rw [Nat.compare_eq_eq.mpr same]
    exact compareTexts_of_length (digits ha) (digits hb) same
  · rw [Nat.compare_eq_gt.mpr more, Nat.compare_eq_gt.mpr (shorter hb ha more)]
    rfl

example : number "007".toList = 7 := by decide

/-! ### Versions -/

variable {v : Version} {w : List Char}

/-- The components as numbers. -/
def numbers (v : Version) : List Nat := v.components.map number

/-- Whether all components consist of ASCII digits. -/
def IsAscii (v : Version) : Prop := ∀ part ∈ v.components, isNumeric part = true

instance (v : Version) : Decidable v.IsAscii :=
  inferInstanceAs (Decidable (∀ part ∈ v.components, isNumeric part = true))

theorem not_isPreRelease (h : v.stage = .release) : v.isPreRelease = false := by
  rw [isPreRelease, h]
  rfl

theorem compareParts_cons_cons (c u : Version) (w a : List Char) (ws as : List (List Char)) :
    compareParts c u (w :: ws) (a :: as)
      = (comparePart c u w a).then (compareParts c u ws as) := by
  rw [compareParts]

theorem comparePart_of_isNumeric (c u : Version) (hw : isNumeric w = true)
    (ha : isNumeric a = true) : comparePart c u w a = compare (number a) (number w) := by
  simp [comparePart, hw, ha, compareNumbers_eq]

/-- Components of equal number compare as lists of numbers do, and what stands behind them only if they
are the same. -/
theorem compareParts_append (c u : Version) {ws as : List (List Char)}
    (hw : ∀ w ∈ ws, isNumeric w = true) (ha : ∀ a ∈ as, isNumeric a = true)
    (same : as.length = ws.length) (xs ys : List (List Char)) :
    compareParts c u (ws ++ xs) (as ++ ys)
      = (compare (as.map number) (ws.map number)).then (compareParts c u xs ys) := by
  induction ws generalizing as with
  | nil =>
    obtain rfl := List.length_eq_zero_iff.mp same
    rfl
  | cons w ws ih =>
    cases as with
    | nil => exact absurd same.symm (Nat.succ_ne_zero _)
    | cons a as =>
      obtain ⟨hw, hws⟩ := List.forall_mem_cons.mp hw
      obtain ⟨ha, has⟩ := List.forall_mem_cons.mp ha
      rw [List.cons_append, List.cons_append, compareParts_cons_cons,
        comparePart_of_isNumeric c u hw ha, ih hws has (Nat.succ.inj same), List.map_cons,
        List.map_cons, List.compare_cons_cons, Ordering.then_assoc]

end Targeting.Version
