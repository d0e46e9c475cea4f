/-!
# Texts within texts

## Main definitions

* `Text.occurs` — whether a text occurs in another one
-/

namespace Targeting.Text

/-- Whether the characters of one text occur, without a gap, in another one. -/
def occurs (part : List Char) : List Char → Bool
  | [] => part.isEmpty
  | c :: cs => part.isPrefixOf (c :: cs) || occurs part cs

/-- A text occurs in another one iff something before it and something after it make up the other. -/
theorem occurs_iff {part whole : List Char} :
    occurs part whole = true ↔ ∃ before after, whole = before ++ part ++ after := by
  induction whole with
  | nil =>
    simp only [occurs, List.isEmpty_iff]
    constructor
    · rintro rfl
      exact ⟨[], [], rfl⟩
    · rintro ⟨before, after, h⟩
      have h := congrArg List.length h
      simp only [List.length_nil, List.length_append] at h
      exact List.eq_nil_of_length_eq_zero (by omega)
  | cons c cs ih =>
    simp only [occurs, Bool.or_eq_true, List.isPrefixOf_iff_prefix, ih]
    constructor
    · rintro (⟨after, h⟩ | ⟨before, after, rfl⟩)
      · exact ⟨[], after, by simpa using h.symm⟩
      · exact ⟨c :: before, after, by simp⟩
    · rintro ⟨_ | ⟨b, before⟩, after, h⟩
      · exact .inl ⟨after, by simpa using h.symm⟩
      · refine .inr ⟨before, after, ?_⟩
        simp only [List.cons_append, List.cons.injEq] at h
        exact h.2

end Targeting.Text
