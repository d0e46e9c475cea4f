import Mathlib.Computability.Language
import Targeting.Proofs.Version.Grammar

/-!
# Reading a version by searching

A version can be read without going through it character by character. The first hyphen and the first plus
sign are looked for, each for itself. If both are there, the one further in front makes the version a
pre-release or a build; if one is there, it does; and the text is cut at this one. What stands in front has
to match a pattern: a run of digits, and up to two more of them, each behind a dot.

The two searches look at the whole text, so each may well come upon a character of the suffix. It does not
matter, because only one of the two can come first, and in front of it there is neither. So the version is
the one that is read from left to right, and the text has the form that a version should have, whatever
hyphens, plus signs and dots there are in its suffix.

## Main definitions

* `Version.componentPattern` — the texts that the components of a version are written as
* `Version.signs`, `Version.halves?` — what the two searches say, and the text cut in two
* `Version.search?` — the version that is found in a text
* `Version.HasForm` — a text has the form of a version with some components

## Main results

* `Version.mem_componentPattern_iff` — what the pattern matches
* `Version.search?_eq` — what is found is what is read
* `Version.ofText?_iff_hasForm` — what is read is what has the form of a version
-/

namespace Targeting

namespace Version

open scoped Computability

variable {cs before suffix : List Char} {runs : List (List Char)} {stage : Stage} {c : Char}
  {v : Version}

/-! ### The pattern of the components -/

/-- The texts of one decimal digit. -/
def digitPattern : Language Char := {cs | ∃ c, cs = [c] ∧ Text.isDecimalDigit c = true}

/-- A digit, and then any number of them. -/
def runPattern : Language Char := digitPattern * digitPattern∗

/-- A dot, and behind it digits. -/
def dottedPattern : Language Char := ({['.']} : Language Char) * runPattern

/-- A run of digits, and then up to two of them behind dots. -/
def componentPattern : Language Char := runPattern * (1 + dottedPattern + dottedPattern ^ 2)

theorem mem_kstar_digitPattern : cs ∈ digitPattern∗ ↔ ∀ c ∈ cs, Text.isDecimalDigit c = true := by
  rw [Language.mem_kstar]
  constructor
  · rintro ⟨pieces, rfl, digits⟩ c hc
    obtain ⟨piece, member, inside⟩ := List.mem_flatten.mp hc
    obtain ⟨d, rfl, digit⟩ := digits piece member
    rwa [List.mem_singleton.mp inside]
  · intro digits
    refine ⟨cs.map ([·]), (List.flatMap_singleton' cs).symm, fun piece member => ?_⟩
    obtain ⟨c, hc, rfl⟩ := List.mem_map.mp member
    exact ⟨c, rfl, digits c hc⟩

theorem mem_runPattern : cs ∈ runPattern ↔ isDigitRun cs = true := by
  rw [runPattern, Language.mem_mul, isDigitRun_iff]
  constructor
  · rintro ⟨first, ⟨c, rfl, digit⟩, rest, digits, rfl⟩
    exact ⟨List.cons_ne_nil _ _, List.forall_mem_cons.mpr
      ⟨digit, mem_kstar_digitPattern.mp digits⟩⟩
  · rintro ⟨some, digits⟩
    obtain ⟨c, rest, rfl⟩ := List.exists_cons_of_ne_nil some
    obtain ⟨digit, digits⟩ := List.forall_mem_cons.mp digits
    exact ⟨[c], ⟨c, rfl, digit⟩, rest, mem_kstar_digitPattern.mpr digits, rfl⟩

theorem mem_dottedPattern : cs ∈ dottedPattern ↔ ∃ run, isDigitRun run = true ∧ '.' :: run = cs := by
  rw [dottedPattern, Language.mem_mul]
  constructor
  · rintro ⟨dot, rfl, run, digits, rfl⟩
    exact ⟨run, mem_runPattern.mp digits, rfl⟩
  · rintro ⟨run, digits, rfl⟩
    exact ⟨['.'], rfl, run, mem_runPattern.mpr digits, rfl⟩

/-- A number of runs of digits, each behind a dot. -/
theorem mem_dottedPattern_pow (n : Nat) : cs ∈ dottedPattern ^ n ↔ ∃ runs : List (List Char),
    runs.length = n ∧ (∀ run ∈ runs, isDigitRun run = true) ∧
      cs = (runs.map ('.' :: ·)).flatten := by
  rw [Language.mem_pow]
  constructor
  · rintro ⟨pieces, rfl, rfl, dotted⟩
    choose! run digits same using fun piece member => mem_dottedPattern.mp (dotted piece member)
    have again : (pieces.map run).map ('.' :: ·) = pieces := by
      rw [List.map_map]
      exact (List.map_congr_left same).trans (List.map_id pieces)
    exact ⟨pieces.map run, List.length_map run, by simpa using digits, by rw [again]⟩
  · rintro ⟨runs, rfl, digits, rfl⟩
    refine ⟨runs.map ('.' :: ·), rfl, List.length_map _, fun piece member => ?_⟩
    obtain ⟨run, hr, rfl⟩ := List.mem_map.mp member
    exact mem_dottedPattern.mpr ⟨run, digits run hr, rfl⟩

/-- The pattern matches one to three runs of digits with dots between them, and nothing else. -/
theorem mem_componentPattern_iff : cs ∈ componentPattern ↔ ∃ runs, runs ≠ [] ∧ runs.length ≤ 3 ∧
    (∀ run ∈ runs, isDigitRun run = true) ∧ cs = Text.join '.' runs := by
  -- The three ways to go on behind the first run are powers of one pattern.
  have one (rest : List Char) : rest ∈ dottedPattern ↔ rest ∈ dottedPattern ^ 1 := by rw [pow_one]
  have none (rest : List Char) : rest ∈ (1 : Language Char) ↔ rest ∈ dottedPattern ^ 0 := by
    rw [pow_zero]
  simp only [componentPattern, Language.mem_mul, Language.mem_add, mem_runPattern]
  simp only [none, one, mem_dottedPattern_pow]
  constructor
  · rintro ⟨first, digits, rest, matched, rfl⟩
    obtain ⟨runs, few, more, rfl⟩ : ∃ runs : List (List Char), runs.length ≤ 2 ∧
        (∀ run ∈ runs, isDigitRun run = true) ∧ rest = (runs.map ('.' :: ·)).flatten := by
      rcases matched with (⟨runs, count, more⟩ | ⟨runs, count, more⟩) | ⟨runs, count, more⟩ <;>
        exact ⟨runs, by omega, more⟩
    exact ⟨first :: runs, List.cons_ne_nil _ _, Nat.succ_le_succ few,
      List.forall_mem_cons.mpr ⟨digits, more⟩, (Text.join_cons '.' first runs).symm⟩
  · rintro ⟨runs, some, few, digits, rfl⟩
    obtain ⟨first, runs, rfl⟩ := List.exists_cons_of_ne_nil some
    obtain ⟨digits, more⟩ := List.forall_mem_cons.mp digits
    refine ⟨first, digits, _, ?_, (Text.join_cons '.' first runs).symm⟩
    rw [List.length_cons] at few
    obtain count | count | count : runs.length = 0 ∨ runs.length = 1 ∨ runs.length = 2 := by omega
    · exact .inl (.inl ⟨runs, count, more, rfl⟩)
    · exact .inl (.inr ⟨runs, count, more, rfl⟩)
    · exact .inr ⟨runs, count, more, rfl⟩

/-- The pattern is matched by what a text cut at its dots is made of. -/
theorem mem_componentPattern_iff_splitOn : cs ∈ componentPattern ↔
    (Text.splitOn (· == '.') cs).length ≤ 3 ∧ (Text.splitOn (· == '.') cs).all isDigitRun = true := by
  rw [mem_componentPattern_iff]
  constructor
  · rintro ⟨runs, some, few, digits, rfl⟩
    rw [Text.splitOn_join some fun run hr => notMem_of_isDigitRun (digits run hr) (by decide)]
    exact ⟨few, List.all_eq_true.mpr digits⟩
  · rintro ⟨few, digits⟩
    exact ⟨_, Text.splitOn_ne_nil _ cs, few, List.all_eq_true.mp digits,
      (Text.join_splitOn '.' cs).symm⟩

instance (cs : List Char) : Decidable (cs ∈ componentPattern) :=
  decidable_of_iff _ mem_componentPattern_iff_splitOn.symm

/-! ### The two searches -/

/-- Which of the two marks comes first: whether it is the hyphen, and whether it is the plus sign. -/
def signs (cs : List Char) : Bool × Bool :=
  match cs.idxOf? '-', cs.idxOf? '+' with
  | some i, some j => (decide (i < j), decide (j < i))
  | some _, none => (true, false)
  | none, some _ => (false, true)
  | none, none => (false, false)

/-- The text in front of the first place of a character, and the text behind it. -/
def cutAt? (mark : Char) (cs : List Char) : Option (List Char × List Char) :=
  (cs.idxOf? mark).map fun i => (cs.take i, cs.drop (i + 1))

/-- The text cut at the mark that comes first. -/
def halves? (cs : List Char) : Option (List Char × List Char) :=
  if (signs cs).1 then cutAt? '-' cs
  else if (signs cs).2 then cutAt? '+' cs
  else some (cs, [])

/-- What is found: the parts that are compared, and which mark came first. -/
structure Finding where
  parts : List (List Char)
  preRelease : Bool
  build : Bool

/-- What is found in a text, by searching for its marks and cutting it there. -/
def search? (cs : List Char) : Option Finding :=
  if cs.any Text.isBlank then none
  else
    match halves? cs with
    | none => none
    | some (front, suffix) =>
      if front ∈ componentPattern then
        some {
          parts := Text.splitOn (· == '.') front ++ (if suffix.isEmpty then [] else [suffix])
          preRelease := (signs cs).1
          build := (signs cs).2 }
      else none

/-- A version as it is found. -/
def finding (v : Version) : Finding := ⟨v.parts, v.isPreRelease, v.stage == .build⟩

theorem idxOf?_append (apart : c ∉ before) (cs : List Char) :
    (before ++ cs).idxOf? c = (cs.idxOf? c).map (· + before.length) := by
  have none : before.idxOf? c = none := List.idxOf?_eq_none_iff.mpr apart
  rw [List.idxOf?] at none ⊢
  rw [List.findIdx?_append, none, Option.none_or]

theorem cutAt?_append (apart : c ∉ before) (suffix : List Char) :
    cutAt? c (before ++ c :: suffix) = some (before, suffix) := by
  rw [cutAt?, idxOf?_append apart, List.idxOf?_cons, if_pos (beq_self_eq_true c)]
  simp

section Marks

variable (apart : ∀ c ∈ before, isMark c = false) (bare : stage = .release → suffix = [])
include apart

theorem notMem_of_isMark (mark : isMark c = true) : c ∉ before :=
  fun inside => Bool.false_ne_true ((apart c inside).symm.trans mark)

include bare

/-- The mark behind the components is the one that comes first, whatever the suffix is. -/
theorem signs_append :
    signs (before ++ (stage.mark ++ suffix)) = (stage == .preRelease, stage == .build) := by
  have hyphen := idxOf?_append (notMem_of_isMark apart (c := '-') rfl) (stage.mark ++ suffix)
  have plus := idxOf?_append (notMem_of_isMark apart (c := '+') rfl) (stage.mark ++ suffix)
  rw [signs, hyphen, plus]
  have first (i : Nat) : decide (0 + before.length < i + 1 + before.length) = true ∧
      decide (i + 1 + before.length < 0 + before.length) = false :=
    ⟨decide_eq_true (by omega), decide_eq_false (by omega)⟩
  cases stage with
  | release =>
    rw [bare rfl]
    rfl
  | preRelease =>
    -- The plus sign is missing, or it stands further behind, in the suffix.
    rw [Stage.mark, List.singleton_append, List.idxOf?_cons, List.idxOf?_cons]
    cases suffix.idxOf? '+' with
    | none => rfl
    | some i => exact Prod.ext (first i).1 (first i).2
  | build =>
    rw [Stage.mark, List.singleton_append, List.idxOf?_cons, List.idxOf?_cons]
    cases suffix.idxOf? '-' with
    | none => rfl
    | some i => exact Prod.ext (first i).2 (first i).1

theorem halves?_append : halves? (before ++ (stage.mark ++ suffix)) = some (before, suffix) := by
  rw [halves?, signs_append apart bare]
  cases stage with
  | release => simp [Stage.mark, bare rfl]
  | preRelease => exact cutAt?_append (notMem_of_isMark apart rfl) suffix
  | build => exact cutAt?_append (notMem_of_isMark apart rfl) suffix

end Marks

/-- What is found in a text is what is read from left to right. -/
theorem search?_eq (cs : List Char) : search? cs = (ofChars? cs).map finding := by
  have apart : ∀ c ∈ cs.takeWhile (!isMark ·), isMark c = false := by
    intro c hc
    simpa using List.all_eq_true.mp (List.all_takeWhile (p := (!isMark ·)) (l := cs)) c hc
  have bare := bare_readMark (cs.dropWhile (!isMark ·))
  have signs := signs_append apart bare
  have halves := halves?_append apart bare
  rw [takeWhile_append_readMark] at signs halves
  rw [search?, halves, signs, ofChars?_eq]
  simp only [mem_componentPattern_iff_splitOn]
  split
  · rfl
  · split <;> rfl

/-! ### The form of a version -/

/-- A text from its first mark on. -/
def fromMark (cs : List Char) : List Char := cs.dropWhile (!isMark ·)

/-- A text has no blanks, and in front of its first mark, or of its end, it consists of one to three runs of
decimal digits with dots between them. -/
structure HasForm (cs : List Char) (runs : List (List Char)) : Prop where
  unbroken : ∀ c ∈ cs, Text.isBlank c = false
  nonempty : runs ≠ []
  few : runs.length ≤ 3
  digits : ∀ run ∈ runs, isDigitRun run = true
  front : cs.takeWhile (!isMark ·) = Text.join '.' runs

theorem IsProper.hasForm (h : v.IsProper) : HasForm v.toChars v.components where
  unbroken c hc := Bool.eq_false_iff.mpr (List.any_eq_false.mp h.not_isBlank c hc)
  nonempty := h.nonempty
  few := h.few
  digits := h.digits
  front := h.takeWhile_toChars

/-- A text of this form is read as the version with these components. -/
theorem HasForm.ofChars?_eq (h : HasForm cs runs) :
    ofChars? cs = some ⟨runs, (readMark (cs.dropWhile (!isMark ·))).1,
      (readMark (cs.dropWhile (!isMark ·))).2⟩ := by
  have written := takeWhile_append_readMark cs
  rw [h.front] at written
  refine ofChars?_eq_some_iff.mpr ⟨⟨h.nonempty, h.few, h.digits, fun c hc => ?_, bare_readMark _⟩,
    written.symm⟩
  refine h.unbroken c ?_
  rw [← written]
  exact List.mem_append_right _ (List.mem_append_right _ hc)

/-- What is found in the written form of a version. -/
theorem IsProper.finding_eq (h : v.IsProper) : v.finding =
    { parts := v.components ++
        (if (fromMark v.toChars).tail.isEmpty then [] else [(fromMark v.toChars).tail])
      preRelease := (fromMark v.toChars).head? == some '-'
      build := (fromMark v.toChars).head? == some '+' } := by
  rw [fromMark, h.dropWhile_toChars, finding, parts, isPreRelease]
  cases stage : v.stage with
  | release => simp [Stage.mark, h.bare stage]
  | preRelease => simp [Stage.mark]
  | build => simp [Stage.mark]

/-- The version that is read is the one that is found by searching. A text is a version if and only if it has
the form of one, its parts are the components and what stands behind the first mark unless this is nothing,
and it is a pre-release or a build if and only if this mark is a hyphen or a plus sign, so it is never both. -/
theorem ofText?_iff_hasForm (s : String) :
    (ofText? s).map finding = search? s.toList ∧
    ((ofText? s).isSome = true ↔ ∃ runs, HasForm s.toList runs) ∧
    ∀ f, search? s.toList = some f → ∃ runs, HasForm s.toList runs ∧
      f.parts = runs ++
        (if (fromMark s.toList).tail.isEmpty then [] else [(fromMark s.toList).tail]) ∧
      (f.preRelease = true ↔ (fromMark s.toList).head? = some '-') ∧
      (f.build = true ↔ (fromMark s.toList).head? = some '+') ∧
      ¬ (f.preRelease = true ∧ f.build = true) := by
  refine ⟨(search?_eq s.toList).symm, ?_, fun f found => ?_⟩
  · rw [Option.isSome_iff_exists]
    constructor
    · rintro ⟨v, read⟩
      obtain ⟨proper, written⟩ := ofChars?_eq_some_iff.mp read
      exact ⟨v.components, written ▸ proper.hasForm⟩
    · rintro ⟨runs, form⟩
      exact ⟨_, form.ofChars?_eq⟩
  · rw [search?_eq] at found
    obtain ⟨v, read, rfl⟩ := Option.map_eq_some_iff.mp found
    obtain ⟨proper, written⟩ := ofChars?_eq_some_iff.mp read
    have same := proper.finding_eq
    rw [← written] at same
    have first : v.finding.preRelease = true ↔ (fromMark s.toList).head? = some '-' := by
      rw [same]
      exact beq_iff_eq
    have second : v.finding.build = true ↔ (fromMark s.toList).head? = some '+' := by
      rw [same]
      exact beq_iff_eq
    refine ⟨v.components, written ▸ proper.hasForm, congrArg Finding.parts same, first, second, ?_⟩
    rintro ⟨hyphen, plus⟩
    exact absurd ((first.mp hyphen).symm.trans (second.mp plus)) (by decide)

/-- The suffix of a pre-release may have both marks and dots in it. -/
theorem ofText?_iff_hasForm_marked_suffix :
    ∃ f, search? "1.2-a+b-c.d".toList = some f ∧ (∃ runs, HasForm "1.2-a+b-c.d".toList runs ∧
      f.parts = runs ++ ["a+b-c.d".toList]) ∧ f.preRelease = true ∧ f.build = false := by
  obtain ⟨same, -, parts⟩ := ofText?_iff_hasForm "1.2-a+b-c.d"
  let v : Version := ⟨["1".toList, "2".toList], .preRelease, "a+b-c.d".toList⟩
  have found : search? "1.2-a+b-c.d".toList = some v.finding := by
    have read : ofText? "1.2-a+b-c.d" = some v := by decide
    rw [← same, read]
    rfl
  obtain ⟨runs, form, parts, -, -, once⟩ := parts v.finding found
  exact ⟨v.finding, found, ⟨runs, form, parts⟩, rfl, Bool.eq_false_iff.mpr fun build => once ⟨rfl, build⟩⟩

end Version

end Targeting
