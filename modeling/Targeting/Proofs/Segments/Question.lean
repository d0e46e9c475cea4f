import Mathlib.Data.List.TakeWhile
import Targeting.Platform.SegmentQuery
import Targeting.Proofs.Json.Quoted

/-!
# What a question says

A question holds texts from outside between fixed words: who is asked about, and the segments that are asked
for. They may hold anything, the fixed words with their braces and quotes among it. The body of the request
can all the same be taken apart in one way only, and the parts are the texts that were asked about, so that
two different questions are never asked in the same words.

To see that no other way is left, follow the quotes. Up to its first quote every taking apart goes alike, so
that one with another key has its first text begin at a later quote. If that quote opens a text, then no blank
stands before it, since this holds for the first quote alone. If it closes a text, then what is taken for
texts are the words between the texts and the other way round, and the question would have to end inside of a
text.

## Main definitions

* `SegmentQuery.Place`, `SegmentQuery.Place.scan?` — where a question is as its characters go by
* `SegmentQuery.Reading` — a way to take a body apart

## Main results

* `SegmentQuery.Place.scan?_between` — a text and a list of texts between fixed words end outside of texts
* `SegmentQuery.Place.front_of_scan?` — what is taken for the first text is the first text of all
* `SegmentQuery.Reading.eq_ofQuery` — every reading of a question's body is the one that is expected
* `SegmentQuery.reads_as_asked` — there is exactly one reading, with the texts that were asked about
-/

namespace Targeting.Platform.SegmentQuery

/-! ### Bare characters -/

/-- Characters with no quote and no backslash among them. -/
def Bare (cs : List Char) : Prop := ∀ c ∈ cs, c ≠ '"' ∧ c ≠ '\\'

instance (cs : List Char) : Decidable (Bare cs) :=
  List.decidableBAll (fun c => c ≠ '"' ∧ c ≠ '\\') cs

namespace Bare

variable {cs rest : List Char}

theorem head {c : Char} (h : Bare (c :: cs)) : c ≠ '"' ∧ c ≠ '\\' := h c List.mem_cons_self

theorem tail {c : Char} (h : Bare (c :: cs)) : Bare cs := fun d member => h d (.tail c member)

theorem append (h : Bare cs) (more : Bare rest) : Bare (cs ++ rest) := fun c member =>
  (List.mem_append.mp member).elim (h c) (more c)

theorem quote_notMem (h : Bare cs) : '"' ∉ cs := fun member => (h _ member).1 rfl

theorem of_blank (h : ∀ c ∈ cs, Raw.isBlank c = true) : Bare cs := by
  intro c member
  have blank := h c member
  constructor <;> rintro rfl <;> simp [Raw.isBlank] at blank

end Bare

/-! ### Places in a question -/

/-- Where a question is as its characters go by. -/
inductive Place where
  /-- No quote has gone by. -/
  | front
  /-- Behind a text; after a blank, or after another character. -/
  | outside (afterBlank : Bool)
  | inside
  /-- Inside of a text, and behind a backslash. -/
  | escaped
  deriving DecidableEq

namespace Place

/-- The place after a character. Outside of the texts there is no backslash, and only the first text begins
after a blank. -/
def next? : Place → Char → Option Place
  | front, c => if c = '"' then some inside else if c = '\\' then none else some front
  | outside afterBlank, c =>
    if c = '"' then if afterBlank then none else some inside
    else if c = '\\' then none
    else some (outside (Raw.isBlank c))
  | inside, c =>
    if c = '"' then some (outside false) else if c = '\\' then some escaped else some inside
  | escaped, _ => some inside

/-- The place after several characters. -/
def scan? (p : Place) (cs : List Char) : Option Place := cs.foldlM next? p

variable {p last : Place} {cs rest : List Char}

@[simp] theorem scan?_nil (p : Place) : p.scan? [] = some p := rfl

theorem scan?_cons (p : Place) (c : Char) (cs : List Char) :
    p.scan? (c :: cs) = (p.next? c).bind (scan? · cs) := List.foldlM_cons

theorem scan?_append (p : Place) (cs rest : List Char) :
    p.scan? (cs ++ rest) = (p.scan? cs).bind (scan? · rest) := List.foldlM_append

/-! ### The places of bare characters -/

theorem scan?_of_next? (stays : ∀ c, c ≠ '"' → c ≠ '\\' → p.next? c = some p) (h : Bare cs) :
    p.scan? cs = some p := by
  induction cs with
  | nil => rfl
  | cons c cs ih => rw [scan?_cons, stays c h.head.1 h.head.2, Option.bind_some, ih h.tail]

theorem scan?_front (h : Bare cs) : scan? front cs = some front :=
  scan?_of_next? (fun c quote escape => by rw [next?, if_neg quote, if_neg escape]) h

theorem scan?_inside (h : Bare cs) : scan? inside cs = some inside :=
  scan?_of_next? (fun c quote escape => by rw [next?, if_neg quote, if_neg escape]) h

theorem scan?_outside (h : Bare cs) (afterBlank : Bool) :
    ∃ afterBlank', scan? (outside afterBlank) cs = some (outside afterBlank') := by
  induction cs generalizing afterBlank with
  | nil => exact ⟨afterBlank, rfl⟩
  | cons c cs ih =>
    rw [scan?_cons, next?, if_neg h.head.1, if_neg h.head.2]
    exact ih h.tail _

/-! ### The places of a question -/

theorem scan?_control : ∀ n < 0x20,
    scan? inside ['\\', 'u', '0', '0', Json.hexDigit (n / 16), Json.hexDigit (n % 16)] = some inside := by
  decide

theorem scan?_escape (c : Char) : scan? inside (Json.escape c) = some inside := by
  fun_cases Json.escape c
  case case8 control => exact scan?_control _ control
  case case9 quote escape _ _ _ _ _ _ => simp [scan?_cons, next?, quote, escape]
  all_goals rfl

theorem scan?_escaped (cs : List Char) : scan? inside (cs.flatMap Json.escape) = some inside := by
  induction cs with
  | nil => rfl
  | cons c cs ih => rw [List.flatMap_cons, scan?_append, scan?_escape, Option.bind_some, ih]

/-- A quoted text ends outside of texts. -/
theorem scan?_quote (opens : p.next? '"' = some inside) (s : String) :
    p.scan? (Json.quote s) = some (outside false) := by
  rw [Json.quote, Json.quoteChars, scan?_cons, opens, Option.bind_some, scan?_append, scan?_escaped]
  rfl

theorem scan?_writeItems (ss : List String) :
    scan? (outside false) (Json.writeItems (ss.map .str)) = some (outside false) := by
  induction ss with
  | nil => rfl
  | cons s ss ih =>
    have comma : next? (outside false) ',' = some (outside false) := rfl
    change scan? _ (',' :: (Json.quote s ++ Json.writeItems (ss.map .str))) = _
    rw [scan?_cons, comma, Option.bind_some, scan?_append, scan?_quote rfl, Option.bind_some, ih]

theorem scan?_texts (ss : List String) (afterBlank : Bool) :
    scan? (outside afterBlank) (Json.texts ss).write = some (outside false) := by
  have bracket : next? (outside afterBlank) '[' = some (outside false) := rfl
  cases ss with
  | nil => rfl
  | cons s ss =>
    change scan? _ ('[' :: (Json.quote s ++ Json.writeItems (ss.map .str))) = _
    rw [scan?_cons, bracket, Option.bind_some, scan?_append, scan?_quote rfl, Option.bind_some,
      scan?_writeItems]

/-- A text and a list of texts between bare words end outside of texts. -/
theorem scan?_between {before middle behind : List Char} (opening : scan? front before = some front)
    (between : Bare middle) (closing : Bare behind) (s : String) (ss : List String) :
    ∃ afterBlank, scan? front (before ++ Json.quote s ++ middle ++ (Json.texts ss).write ++ behind) =
      some (outside afterBlank) := by
  obtain ⟨afterBlank, first⟩ := scan?_outside between false
  obtain ⟨afterBlank', second⟩ := scan?_outside closing false
  refine ⟨afterBlank', ?_⟩
  simp only [scan?_append, opening, scan?_quote (p := front) rfl, first, scan?_texts, second,
    Option.bind_some]

/-! ### Texts taken the other way round -/

theorem scan?_skipBlanks (cs more : List Char) :
    scan? inside (cs ++ more) = scan? inside (Raw.skipBlanks cs ++ more) := by
  conv =>
    lhs
    rw [← Raw.takeWhile_append_skipBlanks cs]
  have blank : Bare (cs.takeWhile Raw.isBlank) := .of_blank fun _ => List.mem_takeWhile_imp
  rw [List.append_assoc, scan?_append, scan?_inside blank, Option.bind_some]

/-- The words between two texts, taken for a text, end where the second one begins. -/
theorem scan?_of_scanPieces {ps : List Raw.Piece} {afterBlank : Bool}
    (scanned : Raw.scanPieces cs = some (ps, rest)) (h : scan? (outside afterBlank) cs = some last) :
    scan? inside rest = some last := by
  induction cs using Raw.scanPieces.induct generalizing afterBlank ps with
  | case1 => simp [Raw.scanPieces] at scanned
  | case2 cs =>
    cases scanned
    cases afterBlank with
    | false => exact h
    | true => cases h
  -- Outside of the texts there is no backslash.
  | case3 => cases h
  | case4 => cases h
  | case5 c cs _ _ _ control =>
    rw [Raw.scanPieces] at scanned <;> first | assumption | simp [control] at scanned
  | case6 c cs quote _ _ control ih =>
    rw [Raw.scanPieces, if_neg control] at scanned
    · simp only [Option.bind_eq_bind, Option.bind_eq_some_iff] at scanned
      obtain ⟨⟨ps, rest⟩, scanned, same⟩ := scanned
      cases same
      rw [scan?_cons, next?, if_neg quote, Option.bind_eq_some_iff] at h
      obtain ⟨next, moved, h⟩ := h
      split at moved
      · cases moved
      · cases moved
        exact ih scanned h
    all_goals assumption

theorem scan?_of_scanText? {s : Option String} (scanned : Raw.scanText? cs = some (s, rest))
    (h : scan? inside ('"' :: cs) = some last) : scan? inside rest = some last := by
  simp only [Raw.scanText?, Option.bind_eq_bind, Option.bind_eq_some_iff] at scanned
  obtain ⟨⟨ps, rest⟩, scanned, same⟩ := scanned
  cases same
  exact scan?_of_scanPieces scanned h

variable {text : String} {more : List Char}

/-- What is read as a text, looked at from inside of a text, ends inside of one. -/
theorem scan?_of_read?_str {s : String} (read : Json.read? text = some (.str s))
    (h : scan? inside (text.toList ++ more) = some last) : scan? inside more = some last := by
  obtain ⟨body, after, opened, scanned, filled⟩ := Json.exists_of_read?_str read
  rw [scan?_skipBlanks, opened] at h
  have behind := scan?_of_scanText? (Raw.scanText?_append scanned more) h
  rwa [scan?_skipBlanks, filled] at behind

theorem scan?_of_scanItems? {fuel : Nat} {ss : List String}
    (scanned : Raw.scanItems? fuel cs = some (ss.map fun s => .str (some s), rest))
    (h : scan? inside (cs ++ more) = some last) : scan? inside (rest ++ more) = some last := by
  induction fuel generalizing cs ss with
  | zero => simp [Raw.scanItems?] at scanned
  | succ fuel ih =>
    simp only [Raw.scanItems?, Option.bind_eq_bind, Option.bind_eq_some_iff] at scanned
    obtain ⟨⟨v, between⟩, value, scanned⟩ := scanned
    have behind (s : Option String) (same : v = .str s) :
        scan? inside (Raw.skipBlanks between ++ more) = some last := by
      subst same
      obtain ⟨body, opened, text⟩ := Raw.exists_of_scanValue?_str value
      rw [scan?_skipBlanks, opened] at h
      rw [← scan?_skipBlanks]
      exact scan?_of_scanText? (Raw.scanText?_append text more) h
    split at scanned
    · next closed =>
      obtain ⟨items, rfl⟩ := Prod.mk.inj (Option.some.inj scanned)
      obtain ⟨s, _, rfl, rfl, _⟩ := List.map_eq_cons_iff.mp items.symm
      have inner := behind _ rfl
      rw [closed] at inner
      exact inner
    · next further =>
      simp only [Option.bind_eq_some_iff] at scanned
      obtain ⟨⟨vs, rest⟩, later, same⟩ := scanned
      obtain ⟨items, rfl⟩ := Prod.mk.inj (Option.some.inj same)
      obtain ⟨s, ss, rfl, rfl, rfl⟩ := List.map_eq_cons_iff.mp items.symm
      have inner := behind _ rfl
      rw [further] at inner
      exact ih later inner
    · cases scanned

/-- What is read as a list of texts, looked at from inside of a text, ends inside of one. -/
theorem scan?_of_read?_texts {ss : List String} (read : Json.read? text = some (.texts ss))
    (h : scan? inside (text.toList ++ more) = some last) : scan? inside more = some last := by
  obtain ⟨body, after, opened, filled, items⟩ := Json.exists_of_read?_texts read
  rw [scan?_skipBlanks, opened] at h
  have entered : scan? inside (Raw.skipBlanks body ++ more) = some last := by
    rw [← scan?_skipBlanks]
    exact h
  have behind : scan? inside (after ++ more) = some last := by
    rcases items with closed | ⟨fuel, scanned⟩
    · rw [closed] at entered
      exact entered
    · exact scan?_of_scanItems? scanned entered
  rwa [scan?_skipBlanks, filled] at behind

/-! ### The place where a text begins -/

theorem notMem_of_scan?_front (h : p.scan? cs = some front) : p = front ∧ '"' ∉ cs := by
  induction cs generalizing p with
  | nil => exact ⟨Option.some.inj h, List.not_mem_nil⟩
  | cons c cs ih =>
    rw [scan?_cons, Option.bind_eq_some_iff] at h
    obtain ⟨next, moved, later⟩ := h
    obtain ⟨rfl, absent⟩ := ih later
    cases p <;> grind [next?]

/-- Behind a blank, a question is at its front, inside of a text or after a blank outside of the texts. -/
theorem eq_of_scan?_blank (h : p.scan? (cs ++ [' ']) = some last) :
    last = front ∨ last = inside ∨ last = outside true := by
  rw [scan?_append, Option.bind_eq_some_iff] at h
  obtain ⟨before, _, moved⟩ := h
  cases before <;> simp [scan?_cons, next?, Raw.isBlank] at moved <;> simp [← moved]

theorem scan?_afterBlank {body : List Char} (opened : Raw.skipBlanks cs = '"' :: body) (more : List Char) :
    scan? (outside true) (cs ++ more) = none := by
  induction cs with
  | nil => cases opened
  | cons c cs ih =>
    rw [Raw.skipBlanks, List.dropWhile_cons] at opened
    split at opened
    · next blank =>
      have bare : Bare [c] := .of_blank (by simpa using blank)
      obtain ⟨quote, escape⟩ := bare.head
      rw [List.cons_append, scan?_cons, next?, if_neg quote, if_neg escape, blank]
      exact ih opened
    · obtain ⟨rfl, -⟩ := List.cons.inj opened
      rfl

/-- What is read as a text, behind a blank and in front of a list of texts, is the first text of all if the
whole ends outside of its texts. -/
theorem front_of_scan? {before middle behind : List Char} {literal array s : String} {ss : List String}
    {afterBlank : Bool} (literal_reads : Json.read? literal = some (.str s))
    (array_reads : Json.read? array = some (.texts ss)) (between : Bare middle) (closing : Bare behind)
    (h : scan? front (before ++ [' '] ++ (literal.toList ++ (middle ++ (array.toList ++ behind)))) =
      some (outside afterBlank)) :
    scan? front (before ++ [' ']) = some front := by
  rw [scan?_append, Option.bind_eq_some_iff] at h
  obtain ⟨p, here, later⟩ := h
  rcases eq_of_scan?_blank here with rfl | rfl | rfl
  · exact here
  · -- From inside of a text, the whole would end inside of one.
    have second := scan?_of_read?_str literal_reads later
    rw [scan?_append, scan?_inside between, Option.bind_some] at second
    have last := scan?_of_read?_texts array_reads second
    rw [scan?_inside closing] at last
    cases last
  · obtain ⟨body, after, opened, -, -⟩ := Json.exists_of_read?_str literal_reads
    rw [scan?_afterBlank opened] at later
    cases later

end Place

/-! ### Parts of a question -/

theorem append_cons_inj {a a' b b' : List Char} {c : Char} (absent : c ∉ a) (absent' : c ∉ a')
    (h : a ++ c :: b = a' ++ c :: b') : a = a' ∧ b = b' := by
  induction a generalizing a' with
  | nil =>
    cases a' with
    | nil => exact ⟨rfl, (List.cons.inj h).2⟩
    | cons d a' => exact absurd (List.cons.inj h).1 (List.ne_of_not_mem_cons absent')
  | cons d a ih =>
    cases a' with
    | nil => exact absurd (List.cons.inj h).1.symm (List.ne_of_not_mem_cons absent)
    | cons e a' =>
      obtain ⟨rfl, later⟩ := List.cons.inj h
      obtain ⟨rfl, rfl⟩ :=
        ih (List.not_mem_of_not_mem_cons absent) (List.not_mem_of_not_mem_cons absent') later
      exact ⟨rfl, rfl⟩

/-- What is read as the first text is the text that is there, but for blanks around it. -/
theorem eq_of_read?_first {before before' more more' : List Char} {literal s t : String}
    (absent : '"' ∉ before) (absent' : '"' ∉ before') (read : Json.read? literal = some (.str s))
    (h : before' ++ (literal.toList ++ more') = before ++ (Json.quote t ++ more)) :
    s = t ∧ ∃ blanks after,
      (∀ c ∈ blanks, Raw.isBlank c = true) ∧ (∀ c ∈ after, Raw.isBlank c = true) ∧
      literal.toList = blanks ++ (Json.quote t ++ after) ∧
      before' ++ blanks = before ∧ after ++ more' = more := by
  obtain ⟨body, after, opened, scanned, filled⟩ := Json.exists_of_read?_str read
  have split := Raw.takeWhile_append_skipBlanks literal.toList
  have blank : ∀ c ∈ literal.toList.takeWhile Raw.isBlank, Raw.isBlank c = true :=
    fun c => List.mem_takeWhile_imp
  generalize literal.toList.takeWhile Raw.isBlank = blanks at split blank
  rw [opened] at split
  have parts : before' ++ blanks ++ '"' :: (body ++ more') =
      before ++ '"' :: (t.toList.flatMap Json.escape ++ '"' :: more) := by
    simpa [← split, Json.quote, Json.quoteChars] using h
  have quoteless : '"' ∉ before' ++ blanks := by
    simpa [absent'] using (Bare.of_blank blank).quote_notMem
  obtain ⟨rfl, inner⟩ := append_cons_inj quoteless absent parts
  have scan := Raw.scanText?_append scanned more'
  rw [inner, Raw.scanText?_quoted, String.ofList_toList] at scan
  obtain ⟨rfl, rfl⟩ : t = s ∧ more = after ++ more' := by simpa using scan
  refine ⟨rfl, blanks, after, blank, List.dropWhile_eq_nil_iff.mp filled, ?_, rfl, rfl⟩
  have closed : body = t.toList.flatMap Json.escape ++ '"' :: after := by
    have appended : body ++ more' = t.toList.flatMap Json.escape ++ '"' :: after ++ more' := by
      simpa using inner
    exact List.append_cancel_right appended
  simp [← split, closed, Json.quote, Json.quoteChars]

/-- A key, its colon and blanks behind it are taken apart in one way. -/
theorem eq_of_colon {key key' blanks : List Char} (blank : ∀ c ∈ blanks, Raw.isBlank c = true)
    (h : key' ++ [' ', ':'] ++ [' '] ++ blanks = key ++ [' ', ':'] ++ [' ']) :
    key' = key ∧ blanks = [] := by
  have mirrored := congrArg List.reverse h
  cases found : blanks.reverse with
  | nil =>
    obtain rfl := List.reverse_eq_nil_iff.mp found
    exact ⟨by simpa using h, rfl⟩
  | cons b bs =>
    -- The character before the last one is the colon, which is no blank.
    cases bs with
    | nil => simp [found] at mirrored
    | cons b' bs =>
      have member : b' ∈ blanks := List.mem_reverse.mp (found ▸ by simp)
      obtain ⟨-, rfl, -⟩ : b = ' ' ∧ b' = ':' ∧ _ := by simpa [found] using mirrored
      exact absurd (blank _ member) (by decide)

/-- Words with a key, a text and a list of texts between them are taken apart in one way. -/
theorem eq_of_parts (words middle closing : List Char) (c : Char) {key key' : List Char}
    {literal array s t : String} {ss ts : List String} (bareWords : Bare words) (bareKey : Bare key)
    (between : Bare (c :: middle)) (printed : Raw.isBlank c = false) (behind : Bare closing)
    (literal_reads : Json.read? literal = some (.str s))
    (array_reads : Json.read? array = some (.texts ss))
    (h : words ++ key' ++ [' ', ':'] ++ [' '] ++
        (literal.toList ++ (c :: middle ++ (array.toList ++ closing))) =
      words ++ key ++ [' ', ':'] ++ [' '] ++ Json.quote t ++ c :: middle ++
        (Json.texts ts).write ++ closing) :
    key' = key ∧ literal.toList = Json.quote t ∧ s = t ∧
      array.toList = (Json.texts ts).write ∧ ss = ts := by
  have bareFront : Bare (words ++ key ++ [' ', ':'] ++ [' ']) :=
    ((bareWords.append bareKey).append (by decide)).append (by decide)
  obtain ⟨afterBlank, ended⟩ := Place.scan?_between (Place.scan?_front bareFront) between behind t ts
  rw [← h] at ended
  have first := Place.front_of_scan? literal_reads array_reads between behind ended
  have quoteless := (Place.notMem_of_scan?_front first).2
  have asked := h.trans (by
    simp only [List.append_assoc] : _ = words ++ key ++ [' ', ':'] ++ [' '] ++
      (Json.quote t ++ (c :: middle ++ ((Json.texts ts).write ++ closing))))
  obtain ⟨rfl, blanks, after, blank, blank', literal_eq, before, rest⟩ :=
    eq_of_read?_first bareFront.quote_notMem quoteless literal_reads asked
  obtain ⟨rfl, rfl⟩ : key' = key ∧ blanks = [] := by
    refine eq_of_colon blank ?_
    simpa only [List.append_assoc, List.append_cancel_left_eq] using before
  -- What follows the text begins with a character other than a blank.
  have opens (cs : List Char) : Raw.skipBlanks (c :: cs) = c :: cs :=
    List.dropWhile_cons_of_neg (by simp [printed])
  have remaining := congrArg Raw.skipBlanks rest
  rw [Raw.skipBlanks_append blank', List.cons_append, List.cons_append, opens, opens,
    ← List.cons_append, ← List.cons_append] at remaining
  rw [remaining] at rest
  obtain rfl : after = [] := by simpa using rest
  have array_eq : array.toList = (Json.texts ts).write :=
    List.append_cancel_right (List.append_cancel_left remaining)
  refine ⟨rfl, by simpa using literal_eq, rfl, array_eq, ?_⟩
  have written : array = (Json.texts ts).text := by
    rw [Json.text, ← array_eq, String.ofList_toList]
  rw [written, Json.read?_texts] at array_reads
  exact Json.texts_injective (Option.some.inj array_reads).symm

/-! ### Readings -/

/-- A way to take a body apart: into the words of a question, with a key, a quoted text and a list of quoted
texts between them. -/
@[ext]
structure Reading (body : String) where
  key : String
  literal : String
  value : String
  array : String
  segments : List String
  body_reads : Json.read? body = some (.obj [("query", .str
    ("query \x7bcustomer(" ++ key ++ " : " ++ literal ++ ") \x7baudiences(subset: " ++ array ++
      ") \x7bedges \x7bnode \x7bname state\x7d\x7d\x7d\x7d\x7d"))])
  literal_reads : Json.read? literal = some (.str value)
  array_reads : Json.read? array = some (.texts segments)

variable {q : SegmentQuery}

theorem question_eq (q : SegmentQuery) : q.question =
    "query \x7bcustomer(".toList ++ q.userKey.toList ++ " : ".toList ++ Json.quote q.userValue ++
      ") \x7baudiences(subset: ".toList ++ (Json.texts q.segments).write ++
      ") \x7bedges \x7bnode \x7bname state\x7d\x7d\x7d\x7d\x7d".toList := rfl

theorem ofList_question (q : SegmentQuery) : "query \x7bcustomer(" ++ q.userKey ++ " : " ++
    .ofList (Json.quote q.userValue) ++ ") \x7baudiences(subset: " ++ (Json.texts q.segments).text ++
      ") \x7bedges \x7bnode \x7bname state\x7d\x7d\x7d\x7d\x7d" = .ofList q.question := by
  refine String.toList_injective ?_
  simp only [question_eq, Json.text, String.toList_append, String.toList_ofList]

/-- The texts that are asked about can be read in the body. -/
def Reading.ofQuery (q : SegmentQuery) : Reading q.body where
  key := q.userKey
  literal := .ofList (Json.quote q.userValue)
  value := q.userValue
  array := (Json.texts q.segments).text
  segments := q.segments
  body_reads := by
    rw [ofList_question]
    exact Json.read?_sole _ _
  literal_reads := Json.read?_quote _
  array_reads := Json.read?_texts _

/-- Every reading of a question's body is the one with the texts that are asked about. -/
theorem Reading.eq_ofQuery (bare : Bare q.userKey.toList) (r : Reading q.body) : r = .ofQuery q := by
  have record := r.body_reads.symm.trans (Json.read?_sole "query" (.ofList q.question))
  simp only [Option.some.injEq, Json.obj.injEq, List.cons.injEq, Prod.mk.injEq, Json.str.injEq,
    true_and, and_true] at record
  have colon : " : ".toList = [' ', ':'] ++ [' '] := by decide
  have opened : ") \x7baudiences(subset: ".toList = ')' :: " \x7baudiences(subset: ".toList := by
    decide
  have parts := congrArg String.toList record
  rw [question_eq, String.toList_ofList] at parts
  simp only [String.toList_append] at parts
  rw [colon, opened] at parts
  obtain ⟨key, literal, value, array, segments⟩ :=
    eq_of_parts "query \x7bcustomer(".toList " \x7baudiences(subset: ".toList
      ") \x7bedges \x7bnode \x7bname state\x7d\x7d\x7d\x7d\x7d".toList ')'
      (by decide) bare (by decide) (by decide) (by decide) r.literal_reads r.array_reads
      (by simpa only [List.append_assoc] using parts)
  refine Reading.ext (String.toList_injective key) (String.toList_injective ?_) value
    (String.toList_injective ?_) segments
  · exact literal.trans String.toList_ofList.symm
  · exact array.trans String.toList_ofList.symm

theorem Reading.texts_eq (bare : Bare q.userKey.toList) {body : String} (same : q.body = body)
    (r : Reading body) : r.key = q.userKey ∧ r.value = q.userValue ∧ r.segments = q.segments := by
  subst same
  rw [r.eq_ofQuery bare]
  exact ⟨rfl, rfl, rfl⟩

/-- The body of a question's request can be read in exactly one way, and what is read there are the key, the
value and the segments that are asked about; every question that has this body asks about the same. -/
theorem reads_as_asked (known : q.userKey = "fs_user_id" ∨ q.userKey = "vuid") :
    ∃ body, q.request.body = some body ∧
      (∃ r : Reading body, r.key = q.userKey ∧ r.value = q.userValue ∧ r.segments = q.segments ∧
        ∀ r' : Reading body, r' = r) ∧
      ∀ q' : SegmentQuery, q'.request.body = some body →
        q'.userKey = q.userKey ∧ q'.userValue = q.userValue ∧ q'.segments = q.segments := by
  have bare : Bare q.userKey.toList := by
    rcases known with key | key <;> rw [key] <;> decide
  refine ⟨q.body, rfl, ⟨.ofQuery q, rfl, rfl, rfl, Reading.eq_ofQuery bare⟩, fun q' same => ?_⟩
  exact (Reading.ofQuery q').texts_eq bare (Option.some.inj same).symm

/-- An identifier and a segment that hold the words of a question and the ends of texts. -/
def mimic : SegmentQuery where
  apiKey := "key"
  host := "https://api.zaius.com"
  userKey := "vuid"
  userValue := "\") \x7baudiences(subset: [\"x\\"
  segments := ["a\" : \"b", "\\", "\"]) \x7bedges \x7bnode \x7bname state\x7d\x7d\x7d\x7d\x7d"]

theorem reads_as_asked_mimic : mimic.userKey = "vuid" ∧ ∃ body, mimic.request.body = some body ∧
    ∃ r : Reading body, r.key = "vuid" ∧ r.value = mimic.userValue ∧ r.segments = mimic.segments :=
  let ⟨body, requested, ⟨r, key, value, segments, _⟩, _⟩ := reads_as_asked (q := mimic) (.inr rfl)
  ⟨rfl, body, requested, r, key, value, segments⟩

end Targeting.Platform.SegmentQuery
