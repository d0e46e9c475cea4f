import Targeting.Platform.Url.Basic

/-!
# Names and values in a query

The query of an address lists names with their values, and what is added to it can be read again: the pairs
that were there before are still read as they were, and behind them stand the added ones in their order,
whatever characters they hold. For a character that has a meaning in a query is written as its bytes, and a
plus sign too, since a plus sign that is written stands for a space.

## Main definitions

* `Url.formBytes`, `Url.formText?` — the bytes, and the text, that a part of a query stands for
* `Url.pairs` — the names and values of a query

## Main results

* `Url.formBytes_formEncode`, `Url.formText?_formEncode` — a text in a form, read again
* `Url.pairs_withPairs` — an address with added names and values, read again
-/

namespace Targeting

namespace Text

/-- A separator cuts a text whatever stands on both sides of it. -/
theorem splitOn_append_separator {p : Char → Bool} {c : Char} (hc : p c = true) (cs ds : List Char) :
    splitOn p (cs ++ c :: ds) = splitOn p cs ++ splitOn p ds := by
  induction cs with
  | nil => simp [splitOn, hc]
  | cons d cs ih =>
    rw [List.cons_append, splitOn, splitOn, ih]
    split
    · rfl
    · have h := splitOn_ne_nil p cs
      cases found : splitOn p cs with
      | nil => exact absurd found h
      | cons piece pieces => rfl

end Text

namespace Platform.Url

variable {c : Char} {cs : List Char}

/-! ### Bytes -/

/-- The characters that have a meaning in a query. -/
def signs : List Char := ['+', '&', '=', '%']

/-- The digits behind a percent sign. -/
theorem hexUpper_digit : ∀ n < 16, Text.hexValue? (hexUpper n) = some n ∧ hexUpper n ∉ signs := by
  decide

theorem mem_percent {b : UInt8} (h : c ∈ percent b) : c = '%' ∨ c ∉ signs := by
  have byte := b.toNat_lt
  simp only [percent, List.mem_cons, List.not_mem_nil, or_false] at h
  rcases h with rfl | rfl | rfl
  · exact .inl rfl
  · exact .inr (hexUpper_digit _ (by omega)).2
  · exact .inr (hexUpper_digit _ (Nat.mod_lt _ (by decide))).2

theorem decode_percent (b : UInt8) (cs : List Char) : decode (percent b ++ cs) = b :: decode cs := by
  have byte := b.toNat_lt
  have high := (hexUpper_digit (b.toNat / 16) (by omega)).1
  have low := (hexUpper_digit (b.toNat % 16) (Nat.mod_lt _ (by decide))).1
  have sum : 16 * (b.toNat / 16) + b.toNat % 16 = b.toNat := Nat.div_add_mod ..
  simp only [percent, List.cons_append, List.nil_append, decode, high, low, sum, UInt8.ofNat_toNat]

theorem decode_cons_of_ne (h : c ≠ '%') (cs : List Char) :
    decode (c :: cs) = String.utf8EncodeChar c ++ decode cs := by
  rw [decode]
  exact fun _ _ _ same _ => h same

/-! ### Texts -/

/-- A plus sign stands for a space. -/
def spaced (c : Char) : Char := if c = '+' then ' ' else c

/-- The bytes that a part of a query stands for. -/
def formBytes (cs : List Char) : List UInt8 := decode (cs.map spaced)

/-- The text that a part of a query stands for; none if its bytes are not one. -/
def formText? (cs : List Char) : Option String := String.fromUTF8? (formBytes cs).toByteArray

theorem map_spaced_percent (b : UInt8) : (percent b).map spaced = percent b := by
  conv =>
    rhs
    rw [← List.map_id (percent b)]
  refine List.map_congr_left fun c member => if_neg ?_
  rintro rfl
  exact absurd (mem_percent member) (by decide)

theorem formBytes_percent (bs : List UInt8) (cs : List Char) :
    formBytes (bs.flatMap percent ++ cs) = bs ++ formBytes cs := by
  induction bs with
  | nil => rfl
  | cons b bs ih =>
    rw [formBytes, List.flatMap_cons, List.append_assoc, List.map_append, map_spaced_percent,
      decode_percent, ← formBytes, ih, List.cons_append]

theorem notMem_signs_of_isFormSafe (h : isFormSafe c = true) : c ∉ signs := by
  intro member
  simp only [signs, List.mem_cons, List.not_mem_nil, or_false] at member
  rcases member with rfl | rfl | rfl | rfl <;> exact absurd h (by decide)

theorem formEncode_cons (c : Char) (cs : List Char) : formEncode (c :: cs) =
    (if isFormSafe c then [c] else if c = ' ' then ['+'] else percentChar c) ++ formEncode cs :=
  List.flatMap_cons

/-- The parts of a form are apart: a text in a form holds nothing that separates them. -/
theorem ne_of_mem_formEncode (h : c ∈ formEncode cs) : c ≠ '&' ∧ c ≠ '=' := by
  have apart (outside : c ∉ signs) : c ≠ '&' ∧ c ≠ '=' := by
    constructor <;> rintro rfl <;> exact outside (by decide)
  obtain ⟨d, -, member⟩ := List.mem_flatMap.mp h
  split at member
  · next safe => exact apart (List.mem_singleton.mp member ▸ notMem_signs_of_isFormSafe safe)
  · split at member
    · rw [List.mem_singleton.mp member]
      decide
    · obtain ⟨b, -, member⟩ := List.mem_flatMap.mp member
      rcases mem_percent member with rfl | outside
      · decide
      · exact apart outside

theorem formBytes_formEncode (cs : List Char) :
    formBytes (formEncode cs) = cs.flatMap String.utf8EncodeChar := by
  induction cs with
  | nil => rfl
  | cons c cs ih =>
    rw [formEncode_cons, List.flatMap_cons, ← ih]
    split
    · next safe =>
      have outside := notMem_signs_of_isFormSafe safe
      have plus : c ≠ '+' := fun same => outside (same ▸ by decide)
      have sign : c ≠ '%' := fun same => outside (same ▸ by decide)
      rw [formBytes, List.singleton_append, List.map_cons, spaced, if_neg plus,
        decode_cons_of_ne sign, formBytes]
    · split
      · next space =>
        rw [space]
        exact decode_cons_of_ne (by decide) _
      · exact formBytes_percent _ _

/-- A text in a form is read again as the text. -/
theorem formText?_formEncode (s : String) : formText? (formEncode s.toList) = some s := by
  have bytes : (formBytes (formEncode s.toList)).toByteArray = s.toByteArray := by
    rw [formBytes_formEncode]
    exact (String.toByteArray_ofList (l := s.toList)).symm.trans
      (congrArg String.toByteArray String.ofList_toList)
  rw [formText?, bytes, String.fromUTF8?, dif_pos s.isValidUTF8]
  rfl

/-! ### Pairs -/

/-- The name and the value of a pair; without an equals sign, the value is empty. -/
def readPair (cs : List Char) : Option String × Option String :=
  (formText? (cs.takeWhile (· != '=')), formText? ((cs.dropWhile (· != '=')).drop 1))

/-- The names and values of a query. -/
def readPairs (query : List Char) : List (Option String × Option String) :=
  ((Text.splitOn (· == '&') query).filter (!·.isEmpty)).map readPair

/-- The names and values in the query of an address, in order. -/
def pairs (url : Url) : List (Option String × Option String) := readPairs (url.query.getD [])

theorem readPair_formPair (name value : String) :
    readPair (formPair name value) = (some name, some value) := by
  have apart : ∀ c ∈ formEncode name.toList, (c != '=') = true := fun c member =>
    bne_iff_ne.mpr (ne_of_mem_formEncode member).2
  rw [readPair, formPair, List.takeWhile_append_of_pos apart, List.dropWhile_append_of_pos apart]
  simp [formText?_formEncode]

/-- A pair stands in one piece. -/
theorem splitOn_formPair (name value : String) :
    Text.splitOn (· == '&') (formPair name value) = [formPair name value] := by
  refine Text.splitOn_of_none fun c member => beq_false_of_ne ?_
  simp only [formPair, List.mem_append, List.mem_cons] at member
  rcases member with member | rfl | member
  · exact (ne_of_mem_formEncode member).1
  · decide
  · exact (ne_of_mem_formEncode member).1

theorem readPairs_formPair (name value : String) :
    readPairs (formPair name value) = [(some name, some value)] := by
  have present : (formPair name value).isEmpty = false := by simp [formPair]
  rw [readPairs, splitOn_formPair, List.filter_cons_of_pos (by simp [present]), List.filter_nil,
    List.map_singleton, readPair_formPair]

/-- Behind the sign that separates pairs, the pairs are read on their own. -/
theorem readPairs_append (query more : List Char) :
    readPairs (query ++ '&' :: more) = readPairs query ++ readPairs more := by
  have parts := Text.splitOn_append_separator (p := (· == '&')) (beq_self_eq_true '&') query more
  rw [readPairs, parts, List.filter_append, List.map_append]
  rfl

theorem readPairs_join (parts : List (List Char)) :
    readPairs (Text.join '&' parts) = parts.flatMap readPairs := by
  induction parts with
  | nil => rfl
  | cons part parts ih =>
    cases parts with
    | nil => simp [Text.join]
    | cons next parts =>
      rw [Text.join, readPairs_append, ih, List.flatMap_cons (x := part)]
      exact List.cons_ne_nil next parts

/-- The names and values that are added to an address are read behind those that it has. -/
theorem pairs_withPairs (url : Url) (added : List (String × String)) :
    (url.withPairs added).pairs = url.pairs ++ added.map fun (name, value) => (some name, some value) := by
  have behind : (added.map fun (name, value) => formPair name value).flatMap readPairs =
      added.map fun (name, value) => (some name, some value) := by
    induction added with
    | nil => rfl
    | cons pair added ih => rw [List.map_cons, List.flatMap_cons, readPairs_formPair, ih]; rfl
  rw [pairs, pairs, withPairs, Option.getD_some, readPairs_join, List.flatMap_append, behind]
  congr 1
  cases url.query with
  | none => rfl
  | some query => cases query <;> simp [readPairs, Text.splitOn]

end Platform.Url

end Targeting
