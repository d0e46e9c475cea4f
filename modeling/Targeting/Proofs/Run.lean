/-!
# Runs of a step function

Systems here move by a function that takes a state and a choice, and gives the next state with
reports, or nothing if the choice is not possible. A run follows a list of choices, in whatever
order they come; a choice that is not possible is passed over. So every list of choices is a run,
and what holds of all lists holds of every interleaving.

## Main definitions

* `Step` — a step that was taken
* `Run.steps`, `Run.final` — the steps of a run, and the state after it

## Main results

* `Run.exists_of_steps_eq` — a part of a run is a run itself, and its steps were possible when they
  were taken
* `Run.induction` — what every step keeps holds of a run and of the state after it
* `Run.until_induction` — what every step but the last one keeps holds before the last one
-/

namespace Targeting

/-- A step that was taken: the state before it, the choice, the state after it, and the reports. -/
structure Step (σ ι ρ : Type) where
  before : σ
  choice : ι
  after : σ
  reports : List ρ

namespace Run

variable {σ ι ρ : Type} (next? : σ → ι → Option (σ × List ρ))

/-- The steps from a state along some choices. -/
def steps (s : σ) : List ι → List (Step σ ι ρ)
  | [] => []
  | c :: cs =>
    match next? s c with
    | some (t, reports) => ⟨s, c, t, reports⟩ :: steps t cs
    | none => steps s cs

/-- The state that is reached from a state along some choices. -/
def final (s : σ) : List ι → σ
  | [] => s
  | c :: cs =>
    match next? s c with
    | some (t, _) => final t cs
    | none => final s cs

variable {next?} {s t : σ} {c : ι} {reports : List ρ}

theorem steps_cons_of_some (h : next? s c = some (t, reports)) (cs : List ι) :
    steps next? s (c :: cs) = ⟨s, c, t, reports⟩ :: steps next? t cs := by
  rw [steps, h]

theorem steps_cons_of_none (h : next? s c = none) (cs : List ι) :
    steps next? s (c :: cs) = steps next? s cs := by
  rw [steps, h]

theorem final_cons_of_some (h : next? s c = some (t, reports)) (cs : List ι) :
    final next? s (c :: cs) = final next? t cs := by
  rw [final, h]

theorem final_cons_of_none (h : next? s c = none) (cs : List ι) :
    final next? s (c :: cs) = final next? s cs := by
  rw [final, h]

theorem steps_append (cs ds : List ι) (s : σ) :
    steps next? s (cs ++ ds) = steps next? s cs ++ steps next? (final next? s cs) ds := by
  induction cs generalizing s with
  | nil => rfl
  | cons c cs ih =>
    rw [List.cons_append]
    cases h : next? s c with
    | none => rw [steps_cons_of_none h, steps_cons_of_none h, final_cons_of_none h, ih]
    | some next =>
      rw [steps_cons_of_some h, steps_cons_of_some h, final_cons_of_some h, ih, List.cons_append]

theorem final_append (cs ds : List ι) (s : σ) :
    final next? s (cs ++ ds) = final next? (final next? s cs) ds := by
  induction cs generalizing s with
  | nil => rfl
  | cons c cs ih =>
    rw [List.cons_append]
    cases h : next? s c with
    | none => rw [final_cons_of_none h, final_cons_of_none h, ih]
    | some next => rw [final_cons_of_some h, final_cons_of_some h, ih]

/-- The steps up to a step of a run are those of a run along some of the choices, and this step was
taken from the state after them. -/
theorem exists_of_steps_eq {cs : List ι} {past rest : List (Step σ ι ρ)} {x : Step σ ι ρ}
    (h : steps next? s cs = past ++ x :: rest) :
    ∃ before later, cs = before ++ x.choice :: later ∧ steps next? s before = past ∧
      final next? s before = x.before ∧
      next? x.before x.choice = some (x.after, x.reports) := by
  induction cs generalizing s past with
  | nil => simp [steps] at h
  | cons c cs ih =>
    cases hc : next? s c with
    | none =>
      rw [steps_cons_of_none hc] at h
      obtain ⟨before, later, rfl, same, state, taken⟩ := ih h
      exact ⟨c :: before, later, rfl, (steps_cons_of_none hc before).trans same,
        (final_cons_of_none hc before).trans state, taken⟩
    | some next =>
      obtain ⟨u, reports⟩ := next
      rw [steps_cons_of_some hc] at h
      rcases List.cons_eq_append_iff.mp h with ⟨rfl, first⟩ | ⟨past, rfl, tail⟩
      · obtain ⟨rfl, -⟩ := List.cons.inj first
        exact ⟨[], cs, rfl, rfl, rfl, hc⟩
      · obtain ⟨before, later, rfl, same, state, taken⟩ := ih tail
        exact ⟨c :: before, later, rfl,
          (steps_cons_of_some hc before).trans (congrArg (_ :: ·) same),
          (final_cons_of_some hc before).trans state, taken⟩

/-- Every step of a run was taken from the state after some of the choices. -/
theorem exists_of_mem_steps {cs : List ι} {x : Step σ ι ρ} (h : x ∈ steps next? s cs) :
    ∃ past later, cs = past ++ x.choice :: later ∧ final next? s past = x.before ∧
      next? x.before x.choice = some (x.after, x.reports) := by
  obtain ⟨past, rest, split⟩ := List.append_of_mem h
  obtain ⟨before, later, same, -, state, taken⟩ := exists_of_steps_eq split
  exact ⟨before, later, same, state, taken⟩

/-- What holds at the start and is kept by every possible step holds of every run. It may speak of
the steps taken so far and of the state that they lead to. -/
theorem induction {motive : List (Step σ ι ρ) → σ → Prop} (start : motive [] s)
    (step : ∀ past t c u reports, motive past t → next? t c = some (u, reports) →
      motive (past ++ [⟨t, c, u, reports⟩]) u) (cs : List ι) :
    motive (steps next? s cs) (final next? s cs) := by
  -- The run goes on at its end and the list of choices at its head, so any past has to be allowed.
  suffices ∀ past t, motive past t → motive (past ++ steps next? t cs) (final next? t cs) from
    this [] s start
  induction cs with
  | nil =>
    intro past t h
    rwa [steps, final, List.append_nil]
  | cons c cs ih =>
    intro past t h
    cases hc : next? t c with
    | none =>
      rw [steps_cons_of_none hc, final_cons_of_none hc]
      exact ih past t h
    | some next =>
      obtain ⟨u, reports⟩ := next
      rw [steps_cons_of_some hc, final_cons_of_some hc, List.append_cons]
      exact ih _ u (step past t c u reports h hc)

/-- What holds at the start and is kept by every possible step holds of every state reached. -/
theorem final_induction {motive : σ → Prop} (start : motive s)
    (step : ∀ t c u reports, motive t → next? t c = some (u, reports) → motive u) (cs : List ι) :
    motive (final next? s cs) :=
  @induction σ ι ρ next? s (fun _ t => motive t) start
    (fun _ t c u reports => step t c u reports) cs

/-- What holds at the start and is kept by every step before the last one of interest holds before
that one, which is a possible step itself. -/
theorem until_induction {motive : σ → Prop} {cs : List ι} {between rest : List (Step σ ι ρ)}
    {last : Step σ ι ρ} (h : steps next? s cs = between ++ last :: rest) (start : motive s)
    (step : ∀ x ∈ between, motive x.before → next? x.before x.choice = some (x.after, x.reports) →
      motive x.after) :
    motive last.before ∧ next? last.before last.choice = some (last.after, last.reports) := by
  -- A choice that is passed over leaves the split of the steps as it is; one that is taken makes
  -- the last step of interest or the first of those before it.
  induction cs generalizing s between with
  | nil => simp [steps] at h
  | cons c cs ih =>
    cases hc : next? s c with
    | none =>
      rw [steps_cons_of_none hc] at h
      exact ih h start step
    | some next =>
      obtain ⟨u, reports⟩ := next
      rw [steps_cons_of_some hc] at h
      cases between with
      | nil =>
        obtain ⟨rfl, -⟩ := List.cons.inj h
        exact ⟨start, hc⟩
      | cons first between =>
        obtain ⟨rfl, tail⟩ := List.cons.inj h
        exact ih tail (step _ List.mem_cons_self start hc)
          fun x hx => step x (List.mem_cons_of_mem _ hx)

end Run

end Targeting
