import Mathlib.Data.List.Basic
import Targeting.Json.Printer
import Targeting.Json.Reader

/-!
# Quoted texts

A quoted text is read back as it was, whatever its characters: a quote and a backslash are written with a
backslash before them, and no other character that is written can end the text or begin an escape. How a text
is scanned is settled when its closing quote is found, so that nothing behind it makes a difference.

## Main results

* `Raw.scanText?_quoted`, `Raw.scanText?_append` — scanning a quoted text, and more text behind it
* `Json.read?_quote`, `Json.read?_texts`, `Json.read?_sole` — a quoted text, a list of texts and a record
  with a single text, written and read again
* `Json.exists_of_read?_str`, `Json.exists_of_read?_texts` — what is read as a text, or as a list of texts
-/

namespace Targeting

namespace Raw

variable {cs rest : List Char} {ps : List Piece} {fuel : Nat}

/-! ### Pieces -/

/-- A piece that stands for a single character, whatever comes behind it. -/
def Piece.StandsFor (p : Piece) (c : Char) : Prop := ∀ ps, join? (p :: ps) = (join? ps).map (c :: ·)

theorem standsFor_char (c : Char) : (Piece.char c).StandsFor c := fun _ => by rw [join?]

/-- A unit that belongs to no pair stands for the character with its number. -/
theorem standsFor_unit {n : Nat} (high : isHigh n = false) (low : isLow n = false) :
    (Piece.unit n).StandsFor (.ofNat n) := by
  intro ps
  match ps with
  | [] => simp [join?, high, low]
  | .char c :: ps => simp [join?, high, low]
  | .unit m :: ps => simp [join?, high, low]

theorem unit?_control :
    ∀ n < 0x20, unit? '0' '0' (Json.hexDigit (n / 16)) (Json.hexDigit (n % 16)) = some n := by
  decide

theorem scanPieces_unit {a b c d : Char} {n : Nat} (unit : unit? a b c d = some n) (cs : List Char) :
    scanPieces ('\\' :: 'u' :: a :: b :: c :: d :: cs) =
      (scanPieces cs).map (Prod.map (.unit n :: ·) id) := by
  simp only [scanPieces, unit]
  cases scanPieces cs <;> rfl

theorem scanPieces_letter {e c : Char} (letter : unescape? e = some c) (cs : List Char) :
    scanPieces ('\\' :: e :: cs) = (scanPieces cs).map (Prod.map (.char c :: ·) id) := by
  have notUnit : e ≠ 'u' := by
    rintro rfl
    exact nomatch letter
  rw [scanPieces]
  · rw [letter]
    cases scanPieces cs <;> rfl
  · exact fun _ _ _ _ _ same _ => notUnit same

theorem scanPieces_plain {c : Char} (quote : c ≠ '"') (escape : c ≠ '\\') (printed : ¬ c.toNat < 0x20)
    (cs : List Char) : scanPieces (c :: cs) = (scanPieces cs).map (Prod.map (.char c :: ·) id) := by
  rw [scanPieces]
  · rw [if_neg printed]
    cases scanPieces cs <;> rfl
  all_goals simp_all

/-- An escaped character is scanned as one piece, which stands for it. -/
theorem exists_scanPieces_escape (c : Char) (cs : List Char) : ∃ p : Piece, p.StandsFor c ∧
    scanPieces (Json.escape c ++ cs) = (scanPieces cs).map (Prod.map (p :: ·) id) := by
  fun_cases Json.escape c
  case case8 control =>
    have high : isHigh c.toNat = false := by simp [isHigh]; omega
    have low : isLow c.toNat = false := by simp [isLow]; omega
    refine ⟨.unit c.toNat, ?_, scanPieces_unit (unit?_control _ control) cs⟩
    simpa using standsFor_unit high low
  case case9 quote escape _ _ _ _ _ printed =>
    exact ⟨.char c, standsFor_char c, scanPieces_plain quote escape printed cs⟩
  -- The characters that are escaped by a letter.
  all_goals
    subst_vars
    exact ⟨.char _, standsFor_char _, scanPieces_letter rfl cs⟩

/-! ### Texts -/

/-- Escaped characters are scanned up to the closing quote. -/
theorem scanText?_quoted (cs rest : List Char) :
    scanText? (cs.flatMap Json.escape ++ '"' :: rest) = some (some (.ofList cs), rest) := by
  suffices ∃ ps, scanPieces (cs.flatMap Json.escape ++ '"' :: rest) = some (ps, rest) ∧
      join? ps = some cs by
    obtain ⟨ps, scanned, joined⟩ := this
    simp [scanText?, scanned, joined]
  induction cs with
  | nil => exact ⟨[], by simp [scanPieces], rfl⟩
  | cons c cs ih =>
    obtain ⟨ps, scanned, joined⟩ := ih
    obtain ⟨p, stands, escaped⟩ :=
      exists_scanPieces_escape c (cs.flatMap Json.escape ++ '"' :: rest)
    refine ⟨p :: ps, ?_, by rw [stands, joined]; rfl⟩
    rw [List.flatMap_cons, List.append_assoc, escaped, scanned]
    rfl

theorem scanPieces_append (h : scanPieces cs = some (ps, rest)) (more : List Char) :
    scanPieces (cs ++ more) = some (ps, rest ++ more) := by
  induction cs using scanPieces.induct generalizing ps with
  | case1 => simp [scanPieces] at h
  | case2 cs =>
    simp only [scanPieces, Option.some.injEq, Prod.mk.injEq] at h
    simp [scanPieces, h]
  | case3 a b c d cs ih =>
    rw [scanPieces] at h
    simp only [Option.bind_eq_bind, Option.bind_eq_some_iff] at h
    obtain ⟨n, unit, ⟨ps, rest⟩, scanned, same⟩ := h
    obtain ⟨rfl, rfl⟩ := Prod.mk.inj (Option.some.inj same)
    simp only [List.cons_append, scanPieces_unit unit, ih scanned]
    rfl
  | case4 e cs notUnit ih =>
    rw [scanPieces] at h
    · simp only [Option.bind_eq_bind, Option.bind_eq_some_iff] at h
      obtain ⟨c, letter, ⟨ps, rest⟩, scanned, same⟩ := h
      obtain ⟨rfl, rfl⟩ := Prod.mk.inj (Option.some.inj same)
      simp only [List.cons_append, scanPieces_letter letter, ih scanned]
      rfl
    · exact notUnit
  | case5 c cs _ _ _ control =>
    rw [scanPieces] at h <;> first | assumption | simp [control] at h
  | case6 c cs quote _ escape control ih =>
    rw [scanPieces] at h
    · rw [if_neg control] at h
      simp only [Option.bind_eq_bind, Option.bind_eq_some_iff] at h
      obtain ⟨⟨ps, rest⟩, scanned, same⟩ := h
      obtain ⟨rfl, rfl⟩ := Prod.mk.inj (Option.some.inj same)
      -- A backslash at the very end of the characters would escape what is put behind them.
      have plain : c ≠ '\\' := by
        rintro rfl
        cases cs with
        | nil => exact nomatch scanned
        | cons e cs => exact escape e cs rfl rfl
      rw [List.cons_append, scanPieces_plain quote plain control, ih scanned]
      rfl
    all_goals assumption

/-- What is scanned as a text remains so with more characters behind it. -/
theorem scanText?_append {s : Option String} (h : scanText? cs = some (s, rest)) (more : List Char) :
    scanText? (cs ++ more) = some (s, rest ++ more) := by
  simp only [scanText?, Option.bind_eq_bind, Option.bind_eq_some_iff] at h
  obtain ⟨⟨ps, rest⟩, scanned, same⟩ := h
  obtain ⟨rfl, rfl⟩ := Prod.mk.inj (Option.some.inj same)
  simp [scanText?, scanPieces_append scanned more]

/-! ### Values -/

theorem scanValue?_quote (fuel : Nat) (s : String) (rest : List Char) :
    scanValue? (fuel + 1) (Json.quote s ++ rest) = some (.str s, rest) := by
  have text := scanText?_quoted s.toList rest
  rw [String.ofList_toList] at text
  simp [Json.quote, Json.quoteChars, scanValue?, skipBlanks, isBlank, text]

theorem scanItems?_last {v : Raw} (value : scanValue? fuel cs = some (v, ']' :: rest)) :
    scanItems? (fuel + 1) cs = some ([v], rest) := by
  simp [scanItems?, value, skipBlanks, isBlank]

theorem scanItems?_cons {v : Raw} {vs : List Raw} {more : List Char}
    (value : scanValue? fuel cs = some (v, ',' :: more))
    (items : scanItems? fuel more = some (vs, rest)) :
    scanItems? (fuel + 1) cs = some (v :: vs, rest) := by
  simp [scanItems?, value, items, skipBlanks, isBlank]

theorem scanValue?_list {c : Char} {vs : List Raw} (printed : isBlank c = false) (inside : c ≠ ']')
    (items : scanItems? fuel (c :: cs) = some (vs, rest)) :
    scanValue? (fuel + 1) ('[' :: c :: cs) = some (.arr vs, rest) := by
  have opening : skipBlanks ('[' :: c :: cs) = '[' :: c :: cs := by simp [skipBlanks, isBlank]
  have first : skipBlanks (c :: cs) = c :: cs := by simp [skipBlanks, printed]
  rw [scanValue?, opening]
  simp only [first]
  split <;> simp_all

theorem scanFields?_last {name : Option String} {v : Raw} {after : List Char}
    (text : scanText? cs = some (name, ':' :: after))
    (value : scanValue? fuel after = some (v, '}' :: rest)) :
    scanFields? (fuel + 1) ('"' :: cs) = some ([(name, v)], rest) := by
  simp [scanFields?, text, value, skipBlanks, isBlank]

theorem scanValue?_record {c : Char} {fields : List (Option String × Raw)}
    (printed : isBlank c = false) (inside : c ≠ '}')
    (scanned : scanFields? fuel (c :: cs) = some (fields, rest)) :
    scanValue? (fuel + 1) ('{' :: c :: cs) = some (.obj fields, rest) := by
  have opening : skipBlanks ('{' :: c :: cs) = '{' :: c :: cs := by simp [skipBlanks, isBlank]
  have first : skipBlanks (c :: cs) = c :: cs := by simp [skipBlanks, printed]
  rw [scanValue?, opening]
  simp only [first]
  split <;> simp_all

theorem scanItems?_texts (s : String) (ss : List String) (rest : List Char)
    (enough : ss.length + 2 ≤ fuel) :
    scanItems? fuel ((Json.str s).write ++ Json.writeItems (ss.map .str) ++ rest) =
      some ((s :: ss).map fun s => .str (some s), rest) := by
  rw [List.append_assoc]
  induction ss generalizing s fuel with
  | nil =>
    obtain ⟨fuel, rfl⟩ := Nat.exists_eq_add_of_le' enough
    exact scanItems?_last (scanValue?_quote fuel s _)
  | cons t ss ih =>
    obtain ⟨fuel, rfl⟩ := Nat.exists_eq_add_of_le' enough
    have enough' : ss.length + 2 ≤ fuel + (t :: ss).length + 1 := by simp
    have later := ih t enough'
    rw [← List.append_assoc] at later
    exact scanItems?_cons (scanValue?_quote (fuel + ss.length + 1) s _) later

theorem scanValue?_texts (ss : List String) (rest : List Char) (enough : ss.length + 3 ≤ fuel) :
    scanValue? fuel ((Json.texts ss).write ++ rest) =
      some (.arr (ss.map fun s => .str (some s)), rest) := by
  obtain ⟨fuel, rfl⟩ := Nat.exists_eq_add_of_le' enough
  cases ss with
  | nil => simp [Json.texts, Json.write, scanValue?, skipBlanks, isBlank]
  | cons s ss =>
    have enough' : ss.length + 2 ≤ fuel + ss.length + 3 := by omega
    exact scanValue?_list rfl (by decide) (scanItems?_texts s ss rest enough')

theorem scanValue?_sole (name s : String) (rest : List Char) (fuel : Nat) :
    scanValue? (fuel + 3) ((Json.obj [(name, .str s)]).write ++ rest) =
      some (.obj [(some name, .str s)], rest) := by
  have text := scanText?_quoted name.toList (':' :: (Json.quote s ++ '}' :: rest))
  rw [String.ofList_toList] at text
  have fields := scanFields?_last text (scanValue?_quote fuel s ('}' :: rest))
  simpa [Json.write, Json.writeFields, Json.quote, Json.quoteChars] using
    scanValue?_record rfl (by decide) fields

theorem values?_texts (depth : Nat) (ss : List String) :
    values? depth (ss.map fun s => .str (some s)) = some (ss.map .str) := by
  induction ss with
  | nil => rfl
  | cons s ss ih => simp [values?, value?, ih]

/-! ### What is read as a text, or as a list of texts -/

theorem takeWhile_append_skipBlanks (cs : List Char) : cs.takeWhile isBlank ++ skipBlanks cs = cs :=
  List.takeWhile_append_dropWhile

theorem skipBlanks_append {blanks : List Char} (h : ∀ c ∈ blanks, isBlank c = true) (cs : List Char) :
    skipBlanks (blanks ++ cs) = skipBlanks cs := List.dropWhile_append_of_pos h

theorem exists_of_scanValue?_str {s : Option String} (h : scanValue? fuel cs = some (.str s, rest)) :
    ∃ body, skipBlanks cs = '"' :: body ∧ scanText? body = some (s, rest) := by
  cases fuel with
  | zero => simp [scanValue?] at h
  | succ fuel =>
    rw [scanValue?] at h
    split at h
    case h_4 body found =>
      simp only [Option.bind_eq_bind, Option.bind_eq_some_iff] at h
      obtain ⟨⟨s, rest⟩, scanned, same⟩ := h
      cases same
      exact ⟨body, found, scanned⟩
    case h_5 body found =>
      split at h
      · cases h
      · simp [Option.bind_eq_some_iff] at h
    case h_6 body found =>
      split at h
      · cases h
      · simp [Option.bind_eq_some_iff] at h
    all_goals simp [Option.bind_eq_some_iff] at h

theorem exists_of_scanValue?_arr {items : List Raw} (h : scanValue? fuel cs = some (.arr items, rest)) :
    ∃ body, skipBlanks cs = '[' :: body ∧
      (skipBlanks body = ']' :: rest ∨
        ∃ fuel, scanItems? fuel (skipBlanks body) = some (items, rest)) := by
  cases fuel with
  | zero => simp [scanValue?] at h
  | succ fuel =>
    rw [scanValue?] at h
    split at h
    case h_5 body found =>
      split at h
      · next closed =>
        cases h
        exact ⟨body, found, .inl closed⟩
      · simp only [Option.bind_eq_bind, Option.bind_eq_some_iff] at h
        obtain ⟨⟨items, rest⟩, scanned, same⟩ := h
        cases same
        exact ⟨body, found, .inr ⟨fuel, scanned⟩⟩
    case h_6 body found =>
      split at h
      · cases h
      · simp [Option.bind_eq_some_iff] at h
    all_goals simp [Option.bind_eq_some_iff] at h

theorem eq_str_of_value? {depth : Nat} {v : Raw} {s : String} (h : v.value? depth = some (.str s)) :
    v = .str (some s) := by
  cases v with
  | str t => simp_all [value?]
  | arr items => cases depth <;> simp [value?] at h
  | obj fields => cases depth <;> simp [value?] at h
  | _ => simp [value?] at h

theorem eq_texts_of_values? {depth : Nat} {vs : List Raw} {ss : List String}
    (h : values? depth vs = some (ss.map .str)) : vs = ss.map fun s => .str (some s) := by
  induction vs generalizing ss with
  | nil => simp_all [values?]
  | cons v vs ih =>
    simp only [values?, Option.bind_eq_bind, Option.bind_eq_some_iff] at h
    obtain ⟨w, first, ws, later, same⟩ := h
    cases ss with
    | nil => cases same
    | cons s ss =>
      obtain ⟨rfl, rfl⟩ := List.cons.inj (Option.some.inj same)
      rw [List.map_cons, eq_str_of_value? first, ih later]

theorem eq_texts_of_value? {depth : Nat} {v : Raw} {ss : List String}
    (h : v.value? depth = some (Json.texts ss)) : v = .arr (ss.map fun s => .str (some s)) := by
  cases v with
  | arr items =>
    cases depth with
    | zero => simp [value?] at h
    | succ depth =>
      simp only [value?, Json.texts, Option.map_eq_some_iff, Json.arr.injEq] at h
      obtain ⟨_, values, rfl⟩ := h
      rw [eq_texts_of_values? values]
  | obj fields => cases depth <;> simp [value?, Json.texts] at h
  | _ => simp [value?, Json.texts] at h

end Raw

namespace Json

variable {cs : List Char}

theorem length_lt_length_writeItems (vs : List Json) : vs.length < (writeItems vs).length := by
  induction vs with
  | nil => simp [writeItems]
  | cons v vs ih => simp [writeItems]; omega

theorem read?_of_scanned {v : Raw}
    (h : Raw.scanValue? (2 * cs.length + 2) (cs ++ []) = some (v, [])) :
    read? (.ofList cs) = v.value? Raw.deepest := by
  rw [List.append_nil] at h
  have raw : Raw.read? (.ofList cs) = some v := by
    rw [Raw.read?, String.toList_ofList, Raw.readChars?, h]
    rfl
  rw [read?, raw, Option.bind_eq_bind, Option.bind_some]

/-- A quoted text is read as the text. -/
theorem read?_quote (s : String) : read? (.ofList (quote s)) = some (.str s) := by
  rw [read?_of_scanned (Raw.scanValue?_quote _ s []), Raw.value?, Option.map_some]

/-- A written list of texts is read as the list. -/
theorem read?_texts (ss : List String) : read? (texts ss).text = some (texts ss) := by
  have enough : ss.length + 3 ≤ 2 * (texts ss).write.length + 2 := by
    cases ss with
    | nil => decide
    | cons s ss =>
      have := length_lt_length_writeItems (ss.map .str)
      simp [texts, write] at *
      omega
  rw [text, read?_of_scanned (Raw.scanValue?_texts ss [] enough), Raw.deepest, Raw.value?,
    Raw.values?_texts]
  rfl

/-- A record with a single text is read as the record. -/
theorem read?_sole (name s : String) :
    read? (obj [(name, .str s)]).text = some (obj [(name, .str s)]) := by
  have scanned := Raw.scanValue?_sole name s [] (2 * (obj [(name, .str s)]).write.length - 1)
  have enough : 0 < (obj [(name, .str s)]).write.length := by simp [write]
  rw [show 2 * (obj [(name, .str s)]).write.length - 1 + 3 =
    2 * (obj [(name, .str s)]).write.length + 2 by omega] at scanned
  rw [text, read?_of_scanned scanned]
  simp [Raw.value?, Raw.deepest, Raw.fieldValues?, sortFields, insertField]

theorem texts_injective : Function.Injective texts := fun _ _ h =>
  List.map_injective_iff.mpr (fun _ _ => str.inj) (arr.inj h)

/-! ### What is read as a text, or as a list of texts -/

theorem exists_of_read? {text : String} {v : Json} (h : read? text = some v) :
    ∃ raw rest fuel, Raw.scanValue? fuel text.toList = some (raw, rest) ∧ Raw.skipBlanks rest = [] ∧
      raw.value? Raw.deepest = some v := by
  simp only [read?, Raw.read?, Raw.readChars?, Option.bind_eq_bind, Option.bind_eq_some_iff] at h
  obtain ⟨_, ⟨⟨raw, rest⟩, scanned, filled⟩, value⟩ := h
  split at filled
  · next empty =>
    cases filled
    exact ⟨raw, rest, _, scanned, List.isEmpty_iff.mp empty, value⟩
  · cases filled

/-- What is read as a text is a quoted text between blanks. -/
theorem exists_of_read?_str {text s : String} (h : read? text = some (.str s)) :
    ∃ body rest, Raw.skipBlanks text.toList = '"' :: body ∧
      Raw.scanText? body = some (some s, rest) ∧ Raw.skipBlanks rest = [] := by
  obtain ⟨raw, rest, fuel, scanned, filled, value⟩ := exists_of_read? h
  rw [Raw.eq_str_of_value? value] at scanned
  obtain ⟨body, opened, text⟩ := Raw.exists_of_scanValue?_str scanned
  exact ⟨body, rest, opened, text, filled⟩

/-- What is read as a list of texts is a list with quoted texts for its items. -/
theorem exists_of_read?_texts {text : String} {ss : List String} (h : read? text = some (texts ss)) :
    ∃ body rest, Raw.skipBlanks text.toList = '[' :: body ∧ Raw.skipBlanks rest = [] ∧
      (Raw.skipBlanks body = ']' :: rest ∨ ∃ fuel,
        Raw.scanItems? fuel (Raw.skipBlanks body) = some (ss.map fun s => .str (some s), rest)) := by
  obtain ⟨raw, rest, fuel, scanned, filled, value⟩ := exists_of_read? h
  rw [Raw.eq_texts_of_value? value] at scanned
  obtain ⟨body, opened, items⟩ := Raw.exists_of_scanValue?_arr scanned
  exact ⟨body, rest, opened, filled, items⟩

end Json

end Targeting
