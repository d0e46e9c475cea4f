import Targeting.Proofs.Audience.Answer
import Targeting.Proofs.Tree.Substitution

/-!
# Targetings as single trees

A targeting is a tree of audience ids, and an audience a tree of conditions. With the trees of
conditions in the place of the ids there is a single tree of conditions. The user belongs to the
targeted audiences if and only if this tree has the answer yes, and the same conditions are asked for
in the same order, with the same answers. What is said about audiences on the way goes into the log and
nowhere else.

## Main definitions

* `Catalogue.conditions`, `Catalogue.inline` — the tree in the place of an id, and the single tree
* `Evaluator.sayBeside` — taking notices while conditions are noted

## Main results

* `Evaluator.evaluateBy_related` — sessions that are related because asking for conditions is
* `Lockstep.inline` — a targeting and its single tree are evaluated in lockstep
* `Evaluator.evaluate_iff_inline` — the same user belongs, and the same conditions are asked for
-/

namespace Targeting

open Audience (Notice)

/-- The conditions of an audience given by its id. A missing audience has a negation of nothing, whose
answer is open. -/
def Catalogue.conditions (catalogue : Catalogue) (id : String) : Tree Condition :=
  match catalogue id with
  | some audience => audience.conditions
  | none => .node .not []

/-- The single tree of conditions for a targeting. -/
def Catalogue.inline (catalogue : Catalogue) (targeting : Tree String) : Tree Condition :=
  targeting.graft catalogue.conditions

/-! ### Related sessions -/

namespace Evaluator

section

variable {m n : Type → Type} [Monad m] [Monad n] {R : ∀ {γ : Type}, m γ → n γ → Prop}
  {say : Notice → m Unit} {say' : Notice → n Unit} {ask : Condition → m Truth}
  {ask' : Condition → n Truth} (catalogue : Catalogue)
  (pure : ∀ {γ : Type} (x : γ), R (pure x) (pure x))
  (bind : ∀ {γ δ : Type} {x : m γ} {y : n γ} {f : γ → m δ} {g : γ → n δ},
    R x y → (∀ a, R (f a) (g a)) → R (x >>= f) (y >>= g))
  (told : ∀ notice, (∀ problem, notice ≠ .problem problem) → R (say notice) (say' notice))
  (asked : ∀ c, R (ask c) (ask' c))
include pure bind told asked

/-- Problems are said where conditions are asked for, so only the other notices matter here. -/
theorem askAudienceBy_related (id : String) :
    R (askAudienceBy say ask catalogue id) (askAudienceBy say' ask' catalogue id) := by
  unfold askAudienceBy
  split
  · exact bind (told _ (by simp)) fun _ => pure _
  · exact bind (told _ (by simp)) fun _ => bind (Tree.evaluate_related pure bind asked _) fun _ =>
      bind (told _ (by simp)) fun _ => pure _

theorem evaluateBy_related (targeting : Option (Tree String)) :
    R (evaluateBy say ask catalogue targeting) (evaluateBy say' ask' catalogue targeting) := by
  unfold evaluateBy
  split
  · exact pure true
  · exact bind (Tree.evaluate_related pure bind
      (askAudienceBy_related catalogue pure bind told asked) _) fun _ => pure _

end

end Evaluator

namespace Lockstep

variable {σ τ : Type} {R : σ → τ → Prop} {say : Notice → StateM σ Unit}
  {say' : Notice → StateM τ Unit} {ask : Condition → StateM σ Truth}
  {ask' : Condition → StateM τ Truth} (catalogue : Catalogue)

section

variable (told : ∀ notice, (∀ problem, notice ≠ .problem problem) →
    Lockstep R (say notice) (say' notice))
  (asked : ∀ c, Lockstep R (ask c) (ask' c))
include told asked

theorem askAudienceBy_of_told (id : String) :
    Lockstep R (Evaluator.askAudienceBy say ask catalogue id)
      (Evaluator.askAudienceBy say' ask' catalogue id) :=
  Evaluator.askAudienceBy_related catalogue pure bind told asked id

theorem evaluateBy_of_told (targeting : Option (Tree String)) :
    Lockstep R (Evaluator.evaluateBy say ask catalogue targeting)
      (Evaluator.evaluateBy say' ask' catalogue targeting) :=
  Evaluator.evaluateBy_related catalogue pure bind told asked targeting

end

theorem evaluateBy (told : ∀ notice, Lockstep R (say notice) (say' notice))
    (asked : ∀ c, Lockstep R (ask c) (ask' c)) (targeting : Option (Tree String)) :
    Lockstep R (Evaluator.evaluateBy say ask catalogue targeting)
      (Evaluator.evaluateBy say' ask' catalogue targeting) :=
  evaluateBy_of_told catalogue (fun notice _ => told notice) asked targeting

section

variable (silent : ∀ notice ⦃s t⦄, R s t → R (say notice s).2 t)
  (asked : ∀ c, Lockstep R (ask c) (ask' c))
include silent asked

/-- The answer for an audience is that of its tree of conditions. -/
theorem conditions (id : String) : Lockstep R (Evaluator.askAudienceBy say ask catalogue id)
    ((catalogue.conditions id).evaluate ask') := by
  cases found : catalogue id with
  | none =>
    have unanswered : (Tree.node .not []).evaluate ask' = Pure.pure Truth.unknown :=
      funext fun _ => Tree.evaluate_not (by decide)
    simp only [Evaluator.askAudienceBy, Catalogue.conditions, found, unanswered]
    exact after_silent (silent _) (pure Truth.unknown)
  | some audience =>
    simp only [Evaluator.askAudienceBy, Catalogue.conditions, found]
    refine after_silent (silent _) ?_
    rw [← bind_pure (audience.conditions.evaluate ask')]
    exact bind (evaluate asked _) fun answer => after_silent (silent _) (pure answer)

/-- The answer for a targeting is that of its single tree. -/
theorem inline (targeting : Tree String) :
    Lockstep R (targeting.evaluate (Evaluator.askAudienceBy say ask catalogue))
      ((catalogue.inline targeting).evaluate ask') := by
  rw [Catalogue.inline, Tree.evaluate_graft]
  exact evaluate (conditions catalogue silent asked) targeting

end

end Lockstep

namespace Evaluator

open Targeting.Tree (askNoted)

variable (e : Evaluator) (user : User)

/-- Takes a notice where conditions are noted as well. -/
def sayBeside (notice : Notice) : StateM (List Notice × List (Condition × Truth)) Unit :=
  fun (log, noted) => ((), (say notice log).2, noted)

theorem lockstep_sayBeside (notice : Notice) :
    Lockstep (fun log s => log = s.1) (say notice) (sayBeside notice) := by
  rintro log s rfl
  exact ⟨rfl, rfl⟩

/-- Notes change nothing: without them there are the same answers and the same notices. -/
theorem lockstep_askNoted (ask : Condition → StateM (List Notice) Truth) (c : Condition) :
    Lockstep (fun log s => log = s.1) (ask c) (askNoted ask c) := by
  rintro log s rfl
  exact ⟨rfl, rfl⟩

/-- The same conditions are noted with the same answers, whatever was said before. -/
theorem lockstep_notes (c : Condition) :
    Lockstep (fun s t => s.2 = t.2) (askNoted (e.askCondition user) c)
      (askNoted (e.askCondition user) c) := by
  rintro ⟨log, noted⟩ ⟨log', noted'⟩ (rfl : noted = noted')
  have same : (e.askCondition user c log).1 = (e.askCondition user c log').1 := by
    rw [askCondition_fst, askCondition_fst]
  exact ⟨same, congrArg (fun answer => noted ++ [(c, answer)]) same⟩

/-- A user belongs to the targeted audiences if and only if the single tree of conditions has the
answer yes. With the conditions that are asked for noted, both evaluations go as they do without, and
they have noted the same conditions in the same order, with the same answers. -/
theorem evaluate_iff_inline (targeting : Tree String) (catalogue : Catalogue)
    (log log' : List Notice) :
    let single := catalogue.inline targeting
    let ask := e.askCondition user
    ((e.evaluate (some targeting) catalogue user log).1 = true ↔
      (single.evaluate ask log').1 = .yes) ∧
    ∃ asked : List (Condition × Truth),
      evaluateBy sayBeside (askNoted ask) catalogue (some targeting) (log, []) =
        ((e.evaluate (some targeting) catalogue user log).1,
          (e.evaluate (some targeting) catalogue user log).2, asked) ∧
      single.evaluate (askNoted ask) (log', []) =
        ((single.evaluate ask log').1, (single.evaluate ask log').2, asked) := by
  intro single ask
  let outer := targeting.evaluate (askAudienceBy sayBeside (askNoted ask) catalogue) (log, [])
  let inner := single.evaluate (askNoted ask) (log', [])
  have same : outer.1 = inner.1 ∧ outer.2.2 = inner.2.2 :=
    Lockstep.inline catalogue (fun _ _ _ same => same) (e.lockstep_notes user) targeting rfl
  have plain : (e.evaluate (some targeting) catalogue user log).1 = outer.1.holds ∧
      (e.evaluate (some targeting) catalogue user log).2 = outer.2.1 :=
    Lockstep.evaluateBy catalogue lockstep_sayBeside (lockstep_askNoted ask) (some targeting) rfl
  have single_plain : (single.evaluate ask log').1 = inner.1 ∧
      (single.evaluate ask log').2 = inner.2.1 :=
    Lockstep.evaluate (lockstep_askNoted ask) single rfl
  refine ⟨?_, inner.2.2, ?_, ?_⟩
  · rw [plain.1, single_plain.1, same.1]
    exact beq_iff_eq
  · rw [plain.1, plain.2, ← same.2]
    rfl
  · rw [single_plain.1, single_plain.2]
    rfl

end Evaluator

end Targeting
