/-!
# Pieces of texts

## Main definitions

* `Text.splitOn`, `Text.join` — the pieces of a text between the characters that separate them, and
  the text that pieces make up
-/

namespace Targeting.Text

/-- The pieces of a text between separating characters; there is one more than there are
separators. -/
def splitOn (isSeparator : Char → Bool) : List Char → List (List Char)
  | [] => [[]]
  | c :: cs =>
    if isSeparator c then [] :: splitOn isSeparator cs
    else
      match splitOn isSeparator cs with
      | [] => [[c]]
      | piece :: pieces => (c :: piece) :: pieces

/-- Pieces with a separator between them. -/
def join (separator : Char) : List (List Char) → List Char
  | [] => []
  | [piece] => piece
  | piece :: pieces => piece ++ separator :: join separator pieces

theorem splitOn_ne_nil (p : Char → Bool) (cs : List Char) : splitOn p cs ≠ [] := by
  cases cs with
  | nil => simp [splitOn]
  | cons c cs =>
    simp only [splitOn]
    split
    · simp
    · split <;> simp

/-- A separator between the pieces gives the text again. -/
theorem join_splitOn (separator : Char) (cs : List Char) :
    join separator (splitOn (· == separator) cs) = cs := by
  induction cs with
  | nil => rfl
  | cons c cs ih =>
    have h := splitOn_ne_nil (· == separator) cs
    rw [splitOn]
    generalize splitOn (· == separator) cs = pieces at h ih
    cases pieces with
    | nil => exact absurd rfl h
    | cons p ps =>
      split
      · rename_i hc
        rw [← beq_iff_eq.mp hc] at ih ⊢
        rw [join, ih, List.nil_append]
        simp
      · cases ps with
        | nil => simpa [join] using ih
        | cons q qs => simpa [join] using ih

theorem mem_join {separator c : Char} {pieces : List (List Char)} (h : c ∈ join separator pieces) :
    c = separator ∨ ∃ piece ∈ pieces, c ∈ piece := by
  induction pieces with
  | nil => exact absurd h List.not_mem_nil
  | cons p ps ih =>
    cases ps with
    | nil => exact .inr ⟨p, List.mem_cons_self, h⟩
    | cons q qs =>
      rcases List.mem_append.mp h with h | h
      · exact .inr ⟨p, List.mem_cons_self, h⟩
      · rcases List.mem_cons.mp h with h | h
        · exact .inl h
        · exact (ih h).imp id fun ⟨piece, hp, hc⟩ => ⟨piece, List.mem_cons_of_mem _ hp, hc⟩

/-- Each piece but the first one stands behind a separator. -/
theorem join_cons (separator : Char) (p : List Char) (ps : List (List Char)) :
    join separator (p :: ps) = p ++ (ps.map (separator :: ·)).flatten := by
  induction ps generalizing p with
  | nil => exact (List.append_nil p).symm
  | cons q qs ih =>
    rw [join, ih q]
    · rfl
    · exact List.cons_ne_nil q qs

theorem mem_join_of_mem {separator c : Char} {piece : List Char} {pieces : List (List Char)}
    (h : piece ∈ pieces) (hc : c ∈ piece) : c ∈ join separator pieces := by
  obtain ⟨p, ps, rfl⟩ := List.exists_cons_of_ne_nil (List.ne_nil_of_mem h)
  rw [join_cons]
  rcases List.mem_cons.mp h with rfl | h
  · exact List.mem_append_left _ hc
  · exact List.mem_append_right _
      (List.mem_flatten.mpr ⟨_, List.mem_map_of_mem h, List.mem_cons_of_mem _ hc⟩)

theorem splitOn_of_none {p : Char → Bool} {piece : List Char} (h : ∀ c ∈ piece, p c = false) :
    splitOn p piece = [piece] := by
  induction piece with
  | nil => rfl
  | cons c cs ih =>
    obtain ⟨hc, hcs⟩ := List.forall_mem_cons.mp h
    rw [splitOn, hc, ih hcs]
    rfl

/-- The first piece ends at the first separator. -/
theorem splitOn_append_cons {p : Char → Bool} {piece : List Char} {c : Char} (cs : List Char)
    (h : ∀ c ∈ piece, p c = false) (hc : p c = true) :
    splitOn p (piece ++ c :: cs) = piece :: splitOn p cs := by
  induction piece with
  | nil => rw [List.nil_append, splitOn, if_pos hc]
  | cons d ds ih =>
    obtain ⟨hd, hds⟩ := List.forall_mem_cons.mp h
    rw [List.cons_append, splitOn, hd, ih hds]
    rfl

/-- Pieces without separators are found again. -/
theorem splitOn_join {separator : Char} {pieces : List (List Char)} (some : pieces ≠ [])
    (h : ∀ piece ∈ pieces, separator ∉ piece) :
    splitOn (· == separator) (join separator pieces) = pieces := by
  have none {piece : List Char} (apart : separator ∉ piece) :
      ∀ c ∈ piece, (c == separator) = false :=
    fun c hc => beq_false_of_ne fun same => apart (same ▸ hc)
  induction pieces with
  | nil => exact absurd rfl some
  | cons p ps ih =>
    obtain ⟨hp, hps⟩ := List.forall_mem_cons.mp h
    cases ps with
    | nil => exact splitOn_of_none (none hp)
    | cons q qs =>
      rw [join, splitOn_append_cons _ (none hp) (beq_self_eq_true _),
        ih (List.cons_ne_nil q qs) hps]
      exact List.cons_ne_nil q qs

end Targeting.Text
