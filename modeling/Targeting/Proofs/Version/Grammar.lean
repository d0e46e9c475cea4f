import Targeting.Text.DecimalDigit
import Targeting.Version.Order

/-!
# What is read as a version

The texts that are versions are exactly those that versions are written as, and what is read is the
version that was written. So a version may be taken for its text.

## Main definitions

* `Version.IsProper` — what every version has that was read
* `Version.toChars`, `Version.text` — a version as a text

## Main results

* `Version.ofChars?_eq_some_iff` — a text is a version if and only if it is what this one is written
  as
* `Version.order_text` — the place of one text relative to another one is that of the versions
-/

namespace Targeting

namespace Text

variable {c : Char}

/-- A text is searched for blanks character by character. What holds of all characters in it could also
be decided by trying all characters that there are, which takes too long. -/
theorem all_not_isBlank_iff {s : List Char} :
    s.all (!isBlank ·) = true ↔ ∀ c ∈ s, isBlank c = false := by
  simp

theorem not_isBlank_of_isDecimalDigit (h : isDecimalDigit c = true) : isBlank c = false := by
  obtain ⟨first, hf, bounds⟩ := List.any_eq_true.mp h
  simp only [Bool.and_eq_true, decide_eq_true_eq] at bounds
  -- The ten digits of a script stand before a run of blanks or behind it.
  have apart : ∀ first ∈ digitZeros, ∀ run ∈ blankRuns, first + 10 ≤ run.1 ∨ run.2 < first := by
    decide
  refine List.any_eq_false.mpr fun run hr => ?_
  have := apart first hf run hr
  simp only [Bool.and_eq_true, decide_eq_true_eq]
  omega

/-- No digit comes before the digits of ASCII. -/
theorem le_code_of_isDecimalDigit (h : isDecimalDigit c = true) : 48 ≤ c.toNat := by
  obtain ⟨first, hf, bounds⟩ := List.any_eq_true.mp h
  simp only [Bool.and_eq_true, decide_eq_true_eq] at bounds
  have least : ∀ first ∈ digitZeros, 48 ≤ first := by decide
  exact Nat.le_trans (least first hf) bounds.1

theorem ne_of_isDecimalDigit {d : Char} (h : isDecimalDigit c = true) (low : d.toNat < 48) :
    c ≠ d :=
  fun same => Nat.not_lt.mpr (le_code_of_isDecimalDigit h) (same ▸ low)

end Text

namespace Version

/-- The character before the suffix of a version. -/
def Stage.mark : Stage → List Char
  | release => []
  | preRelease => ['-']
  | build => ['+']

/-- A version as a sequence of characters. -/
def toChars (v : Version) : List Char :=
  Text.join '.' v.components ++ (v.stage.mark ++ v.suffix)

/-- A version as a text. -/
def text (v : Version) : String := String.ofList v.toChars

/-- A version has one to three components, each a run of decimal digits; there is no blank in its
suffix, and a release has none. -/
structure IsProper (v : Version) : Prop where
  nonempty : v.components ≠ []
  few : v.components.length ≤ 3
  digits : ∀ part ∈ v.components, isDigitRun part = true
  unbroken : ∀ c ∈ v.suffix, Text.isBlank c = false
  bare : v.stage = .release → v.suffix = []

instance (v : Version) : Decidable v.IsProper :=
  decidable_of_iff (v.components ≠ [] ∧ v.components.length ≤ 3 ∧
      (∀ part ∈ v.components, isDigitRun part = true) ∧
      v.suffix.all (!Text.isBlank ·) = true ∧ (v.stage = .release → v.suffix = []))
    ⟨fun ⟨nonempty, few, digits, unbroken, bare⟩ =>
        ⟨nonempty, few, digits, Text.all_not_isBlank_iff.mp unbroken, bare⟩,
      fun h => ⟨h.nonempty, h.few, h.digits, Text.all_not_isBlank_iff.mpr h.unbroken, h.bare⟩⟩

variable {v : Version} {cs : List Char}

theorem isDigitRun_iff {part : List Char} :
    isDigitRun part = true ↔ part ≠ [] ∧ ∀ c ∈ part, Text.isDecimalDigit c = true := by
  simp [isDigitRun]

/-- What comes before the digits of ASCII, as a dot does, is in no run of digits. -/
theorem notMem_of_isDigitRun {part : List Char} {c : Char} (h : isDigitRun part = true)
    (low : c.toNat < 48) : c ∉ part :=
  fun inside => Text.ne_of_isDecimalDigit ((isDigitRun_iff.mp h).2 c inside) low rfl

/-- A part that is compared as a number is a run of decimal digits. -/
theorem isDigitRun_of_isNumeric {part : List Char} (h : isNumeric part = true) :
    isDigitRun part = true := by
  obtain ⟨nonempty, ascii⟩ := Bool.and_eq_true_iff.mp h
  refine Bool.and_eq_true_iff.mpr ⟨nonempty, List.all_eq_true.mpr fun c hc => ?_⟩
  exact Text.isDecimalDigit_of_isDigit (List.all_eq_true.mp ascii c hc)

theorem not_isMark_of_isDecimalDigit {c : Char} (h : Text.isDecimalDigit c = true) :
    isMark c = false := by
  simp [isMark, Text.ne_of_isDecimalDigit h (d := '-') (by decide),
    Text.ne_of_isDecimalDigit h (d := '+') (by decide)]

theorem parts_of_isRelease (proper : v.IsProper) (h : v.stage = .release) :
    v.parts = v.components := by
  simp [parts, proper.bare h]

theorem readMark_mark (bare : v.stage = .release → v.suffix = []) :
    readMark (v.stage.mark ++ v.suffix) = (v.stage, v.suffix) := by
  cases stage : v.stage with
  | release =>
    rw [bare stage]
    rfl
  | preRelease => rfl
  | build => rfl

/-- What a text is read as, behind its components: either it ends there, or a mark follows. -/
theorem mark_readMark (h : ∀ c, cs.head? = some c → isMark c = true) :
    (readMark cs).1.mark ++ (readMark cs).2 = cs := by
  cases cs with
  | nil => rfl
  | cons c cs =>
    have mark : c = '-' ∨ c = '+' := by simpa [isMark] using h c rfl
    rcases mark with rfl | rfl <;> rfl

theorem bare_readMark (cs : List Char) : (readMark cs).1 = .release → (readMark cs).2 = [] := by
  unfold readMark
  split
  · exact fun released => Stage.noConfusion released
  · exact fun released => Stage.noConfusion released
  · exact fun _ => rfl

theorem ofChars?_eq (cs : List Char) : ofChars? cs =
    if cs.any Text.isBlank then none
    else if (Text.splitOn (· == '.') (cs.takeWhile (!isMark ·))).length ≤ 3 ∧
        (Text.splitOn (· == '.') (cs.takeWhile (!isMark ·))).all isDigitRun then
      some ⟨Text.splitOn (· == '.') (cs.takeWhile (!isMark ·)),
        (readMark (cs.dropWhile (!isMark ·))).1, (readMark (cs.dropWhile (!isMark ·))).2⟩
    else none := rfl

namespace IsProper

variable (h : v.IsProper)
include h

/-- The components with their dots hold neither marks nor blanks. -/
theorem of_mem_join {c : Char} (hc : c ∈ Text.join '.' v.components) :
    isMark c = false ∧ Text.isBlank c = false := by
  rcases Text.mem_join hc with rfl | ⟨part, hp, hc⟩
  · decide
  · have digit := (isDigitRun_iff.mp (h.digits part hp)).2 c hc
    exact ⟨not_isMark_of_isDecimalDigit digit, Text.not_isBlank_of_isDecimalDigit digit⟩

theorem takeWhile_toChars : v.toChars.takeWhile (!isMark ·) = Text.join '.' v.components := by
  rw [toChars, List.takeWhile_append_of_pos (by simpa using fun c hc => (h.of_mem_join hc).1)]
  -- Behind the components there is nothing, or a mark.
  cases stage : v.stage with
  | release => simp [Stage.mark, h.bare stage]
  | preRelease => simp [Stage.mark, isMark]
  | build => simp [Stage.mark, isMark]

theorem dropWhile_toChars : v.toChars.dropWhile (!isMark ·) = v.stage.mark ++ v.suffix := by
  have parts := List.takeWhile_append_dropWhile (p := (!isMark ·)) (l := v.toChars)
  rw [h.takeWhile_toChars] at parts
  exact List.append_cancel_left parts

theorem not_isBlank : v.toChars.any Text.isBlank = false := by
  refine List.any_eq_false.mpr fun c hc => ?_
  rw [Bool.not_eq_true]
  rcases List.mem_append.mp hc with hc | hc
  · exact (h.of_mem_join hc).2
  · rcases List.mem_append.mp hc with hc | hc
    · cases stage : v.stage <;> simp_all [Stage.mark] <;> decide
    · exact h.unbroken c hc

theorem ofChars?_toChars : ofChars? v.toChars = some v := by
  have found : Text.splitOn (· == '.') (Text.join '.' v.components) = v.components :=
    Text.splitOn_join h.nonempty fun part hp => notMem_of_isDigitRun (h.digits part hp) (by decide)
  have fits : v.components.length ≤ 3 ∧ v.components.all isDigitRun = true :=
    ⟨h.few, List.all_eq_true.mpr h.digits⟩
  rw [ofChars?_eq, h.takeWhile_toChars, h.dropWhile_toChars, found, readMark_mark h.bare,
    h.not_isBlank, if_neg Bool.false_ne_true, if_pos fits]

end IsProper

/-- Every text is what stands in front of its first mark, this mark, and what stands behind. -/
theorem takeWhile_append_readMark (cs : List Char) :
    cs.takeWhile (!isMark ·) ++ ((readMark (cs.dropWhile (!isMark ·))).1.mark ++
      (readMark (cs.dropWhile (!isMark ·))).2) = cs := by
  have behind : ∀ c, (cs.dropWhile (!isMark ·)).head? = some c → isMark c = true := by
    intro c hc
    have first := List.head?_dropWhile_not (!isMark ·) cs
    rw [hc] at first
    simpa using first
  rw [mark_readMark behind, List.takeWhile_append_dropWhile]

/-- A text is a version if and only if it is what this one is written as. -/
theorem ofChars?_eq_some_iff : ofChars? cs = some v ↔ v.IsProper ∧ cs = v.toChars := by
  refine ⟨fun read => ?_, fun ⟨h, written⟩ => written ▸ h.ofChars?_toChars⟩
  rw [ofChars?_eq] at read
  split at read
  · exact absurd read (Option.some_ne_none v).symm
  next unblank =>
  split at read
  next fits =>
    obtain rfl := Option.some.inj read
    have written := (takeWhile_append_readMark cs).symm
    refine ⟨⟨Text.splitOn_ne_nil _ _, fits.1, List.all_eq_true.mp fits.2, fun c hc => ?_,
      bare_readMark _⟩, ?_⟩
    · have inside : c ∈ cs := by
        rw [written]
        exact List.mem_append_right _ (List.mem_append_right _ hc)
      exact Bool.eq_false_iff.mpr fun blank => unblank (List.any_eq_true.mpr ⟨c, inside, blank⟩)
    · rw [toChars, Text.join_splitOn]
      exact written
  · exact absurd read (Option.some_ne_none v).symm

theorem ofText?_text (h : v.IsProper) : ofText? v.text = some v := by
  rw [ofText?, text, String.toList_ofList, h.ofChars?_toChars]

theorem isProper_of_ofText? {s : String} (h : ofText? s = some v) : v.IsProper :=
  (ofChars?_eq_some_iff.mp h).1

theorem order_eq {condition user : String} {c u : Version} (hc : ofText? condition = some c)
    (hu : ofText? user = some u) : order condition user = .ok (compareWith c u) := by
  rw [order, hu, hc]

/-- Of two texts that should be versions, the user's is named if it is none, and the condition's otherwise. -/
theorem order_of_invalid {condition user : String}
    (invalid : ofText? user = none ∨ ofText? condition = none) :
    order condition user = .error (if (ofText? user).isNone then user else condition) := by
  unfold order
  cases hu : ofText? user with
  | none => rfl
  | some u =>
    have none : ofText? condition = none := invalid.resolve_left (hu ▸ Option.some_ne_none u)
    rw [none]
    rfl

/-- The place of one text relative to another one is that of the versions. -/
theorem order_text {c u : Version} (hc : c.IsProper) (hu : u.IsProper) :
    order c.text u.text = .ok (compareWith c u) :=
  order_eq (ofText?_text hc) (ofText?_text hu)

end Version

end Targeting
