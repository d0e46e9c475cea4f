import Targeting.Proofs.Audience.Panel

/-!
# Calls that break off

A judge who fails is cleared up after, and this runs code of his once more: the message of his error is
written, and the error, or what his crash has left behind, is thrown away. A crash in there is a *burst*. It
is caught by nobody, so the call breaks off at this question, before the complaint about the failure.

A session goes on after every failure. A call goes as the session does up to the first question whose judge
bursts, and it returns if there is none. So judges who fail are harmless exactly as long as none of them
bursts: then a call goes as one in which they leave open what they fail at, but for the complaints.

## Main definitions

* `Panel.callCondition`, `Panel.callAudience`, `Panel.call` — calls with judges who remember
* `Panel.burst?`, `Panel.Harmless` — judges who burst, and questions at which none does
* `Panel.BreaksOff`, `Panel.Follows` — calls that go as sessions do, up to the first burst
* `Panel.GoesAs` — two calls that both return and differ by complaints

## Main results

* `Evaluator.evaluate_of_call`, `Evaluator.askAudience_of_callAudience` — calls that return
* `Panel.follows_call`, `Panel.follows_callAudience` — calls and sessions
* `Panel.goesAs_iff` — when failing judges are harmless
* `Panel.cannot_interfere` — what judges cannot do
-/

namespace Targeting

open Audience (Notice)

namespace Evaluator

/-! ### Calls in sequence -/

section

variable {σ γ δ : Type} {x : Attempt σ γ} {f : γ → Attempt σ δ} {s s' : σ}

theorem bind_of_ok {answer : γ} (h : x s = (.ok answer, s')) : (x >>= f) s = f answer s' := by
  simp only [bind, ExceptT.bind, ExceptT.mk, ExceptT.bindCont, StateT.bind, h]

theorem bind_of_error {wreck : Wreck} (h : x s = (.error wreck, s')) :
    (x >>= f) s = (.error wreck, s') := by
  simp only [bind, ExceptT.bind, ExceptT.mk, ExceptT.bindCont, StateT.bind, h]
  rfl

end

/-! ### Calls that return -/

/-- Wherever a computation that may break off returns, the other one does the same. -/
def Covers {σ γ : Type} (x : Attempt σ γ) (y : StateM σ γ) : Prop :=
  ∀ ⦃s answer s'⦄, x s = (.ok answer, s') → y s = (answer, s')

namespace Covers

variable {σ γ δ : Type}

theorem pure (answer : γ) : Covers (σ := σ) (pure answer) (pure answer) := by
  rintro s _ _ ⟨⟩
  rfl

theorem lift (y : StateM σ γ) : Covers (ExceptT.lift y) y := by
  rintro s _ _ ⟨⟩
  rfl

theorem bind {x : Attempt σ γ} {y : StateM σ γ} {f : γ → Attempt σ δ} {g : γ → StateM σ δ}
    (h : Covers x y) (k : ∀ a, Covers (f a) (g a)) : Covers (x >>= f) (y >>= g) := by
  intro s answer s' returned
  rcases first : x s with ⟨_ | between, s₁⟩
  · rw [bind_of_error first] at returned
    cases returned
  · rw [bind_of_ok first] at returned
    change g (y s).1 (y s).2 = _
    rw [h first]
    exact k between returned

end Covers

section

variable (e : Evaluator) (targeting : Option (Tree String)) (catalogue : Catalogue) (user : User)

theorem covers_callCondition (c : Condition) : Covers (e.callCondition user c) (e.askCondition user c) := by
  unfold callCondition
  split
  · rintro s answer s' ⟨⟩
  · exact .lift _

/-- A call that returns goes as evaluation does when clearing up goes well. -/
theorem evaluate_of_call {log log' : List Notice} {answer : Bool}
    (returned : e.call targeting catalogue user log = (.ok answer, log')) :
    e.evaluate targeting catalogue user log = (answer, log') :=
  evaluateBy_related catalogue Covers.pure Covers.bind (fun notice _ => .lift (say notice))
    (e.covers_callCondition user) targeting returned

theorem askAudience_of_callAudience {id : String} {log log' : List Notice} {answer : Truth}
    (returned : e.callAudience catalogue user id log = (.ok answer, log')) :
    e.askAudience catalogue user id log = (answer, log') :=
  askAudienceBy_related catalogue Covers.pure Covers.bind (fun notice _ => .lift (say notice))
    (e.covers_callCondition user) id returned

end

end Evaluator

open Evaluator (Attempt)

/-! ### Bursts -/

/-- A verdict that leaves the condition open instead of failing does not burst. -/
theorem Verdict.burst?_calm (v : Verdict) : v.calm.burst? = none := by
  cases v <;> rfl

namespace Panel

variable (p : Panel)

/-- The choice of all kinds. -/
def anyKind : String → Bool := fun _ => true

section

variable (kinds : String → Bool) (user : User)

/-- What the burst leaves behind, if a question is put to a judge of some kinds who bursts. -/
def burst? (past : List (Condition × Truth)) (c : Condition) : Option Wreck :=
  match Condition.Kind.ofText c.kind with
  | .other kind =>
    if kinds kind then ((p.judges past).lookup kind).bind fun judge => (judge c user).burst? else none
  | _ => none

/-- No judge of some kinds bursts at any of the noted questions after those of the past. -/
def Harmless (past noted : List (Condition × Truth)) : Prop :=
  ∀ ⦃before c answer⦄, past <+: before → before ++ [(c, answer)] <+: noted →
    p.burst? kinds user before c = none

end

section

variable {p} {kinds : String → Bool} {user : User} {past noted later : List (Condition × Truth)}
  {c : Condition}

theorem burst?_evaluator : (p.evaluator past).burst? user c = p.burst? anyKind user past c := by
  cases routed : Condition.Kind.ofText c.kind with
  | other kind =>
    simp only [Evaluator.burst?, burst?, routed, evaluator, Evaluator.lookup_ofList routed]
    rfl
  | _ => simp only [Evaluator.burst?, burst?, routed]

/-- Calming some judges leaves the bursts of the others. -/
theorem burst?_calmed : (p.calmed kinds).burst? anyKind user past c =
    p.burst? (fun kind => !kinds kind) user past c := by
  unfold burst?
  split
  · next kind routed =>
    rw [lookup_calmed]
    cases (p.judges past).lookup kind with
    | none => simp
    | some judge => cases chosen : kinds kind <;> simp [anyKind, chosen, Judge.calm, Verdict.burst?_calm]
  · rfl

theorem burst?_anyKind_eq_none : p.burst? anyKind user past c = none ↔
    p.burst? kinds user past c = none ∧ (p.calmed kinds).burst? anyKind user past c = none := by
  rw [burst?_calmed]
  unfold burst?
  split
  · next kind _ => cases chosen : kinds kind <;> simp [anyKind, chosen]
  · simp

theorem Harmless.refl (past : List (Condition × Truth)) : p.Harmless kinds user past past := by
  intro before c answer began asked
  have shorter := began.length_le
  have longer := asked.length_le
  rw [List.length_append, List.length_singleton] at longer
  omega

theorem harmless_concat_iff (answer : Truth) :
    p.Harmless kinds user past (past ++ [(c, answer)]) ↔ p.burst? kinds user past c = none := by
  constructor
  · intro harmless
    exact harmless (List.prefix_refl past) (List.prefix_refl _)
  · intro calm before c' answer' began asked
    rcases List.prefix_concat_iff.mp asked with same | within
    · obtain ⟨rfl, ⟨⟩⟩ := List.append_inj' same rfl
      exact calm
    · exact Harmless.refl past began within

/-- Questions are harmless if those up to some point and those after it are. -/
theorem harmless_trans_iff (began : past <+: noted) (went : noted <+: later) :
    p.Harmless kinds user past later ↔
      p.Harmless kinds user past noted ∧ p.Harmless kinds user noted later := by
  constructor
  · intro harmless
    exact ⟨fun _ _ _ early asked => harmless early (asked.trans went),
      fun _ _ _ late asked => harmless (began.trans late) asked⟩
  · rintro ⟨early, late⟩ before c answer since asked
    -- A question is put before that point, it is the first one behind it, or it comes later still.
    rcases List.prefix_or_prefix_of_prefix asked went with within | beyond
    · exact early since within
    · rcases List.prefix_concat_iff.mp beyond with rfl | after
      · exact early since (List.prefix_refl _)
      · exact late after asked

theorem harmless_anyKind_iff (kinds : String → Bool) : p.Harmless anyKind user past noted ↔
    p.Harmless kinds user past noted ∧ (p.calmed kinds).Harmless anyKind user past noted := by
  constructor
  · intro harmless
    exact ⟨fun _ _ _ began asked => (burst?_anyKind_eq_none.mp (harmless began asked)).1,
      fun _ _ _ began asked => (burst?_anyKind_eq_none.mp (harmless began asked)).2⟩
  · rintro ⟨chosen, others⟩ before c answer began asked
    exact burst?_anyKind_eq_none.mpr ⟨chosen began asked, others began asked⟩

end

/-! ### Calls of a panel -/

section

variable (user : User) (catalogue : Catalogue)

/-- The call for a condition to the judges as they are now. What is answered goes into the minutes. -/
def callCondition (c : Condition) : Attempt Minutes Truth :=
  ExceptT.mk fun (log, past) =>
    match (p.evaluator past).callCondition user c log with
    | (.ok answer, log) => (.ok answer, log, past ++ [(c, answer)])
    | (.error wreck, log) => (.error wreck, log, past)

/-- Takes a notice in the course of a call. -/
def sayInCall (notice : Notice) : Attempt Minutes Unit := ExceptT.lift (Evaluator.sayBeside notice)

/-- The call for an audience given by its id. -/
def callAudience (catalogue : Catalogue) (user : User) : String → Attempt Minutes Truth :=
  Evaluator.askAudienceBy sayInCall (p.callCondition user) catalogue

/-- The call that tells whether a user belongs to the targeted audiences. -/
def call (targeting : Option (Tree String)) (catalogue : Catalogue) (user : User) :
    Attempt Minutes Bool :=
  Evaluator.evaluateBy sayInCall (p.callCondition user) catalogue targeting

end

variable {p} {user : User} {log : List Notice} {past : List (Condition × Truth)} {c : Condition}

theorem callCondition_apply : p.callCondition user c (log, past) =
    match (p.evaluator past).callCondition user c log with
    | (.ok answer, log) => (.ok answer, log, past ++ [(c, answer)])
    | (.error wreck, log) => (.error wreck, log, past) := rfl

theorem callCondition_of_none (calm : p.burst? anyKind user past c = none) :
    p.callCondition user c (log, past) =
      (.ok (p.ask user c (log, past)).1, (p.ask user c (log, past)).2) := by
  rw [← burst?_evaluator] at calm
  have called : (p.evaluator past).callCondition user c =
      ExceptT.lift ((p.evaluator past).askCondition user c) := by
    simp only [Evaluator.callCondition, calm]
  rw [callCondition_apply, called]
  rfl

theorem callCondition_of_some {wreck : Wreck} (burst : p.burst? anyKind user past c = some wreck) :
    p.callCondition user c (log, past) = (.error wreck, log, past) := by
  rw [← burst?_evaluator] at burst
  have called : (p.evaluator past).callCondition user c = throw wreck := by
    simp only [Evaluator.callCondition, burst]
  rw [callCondition_apply, called]
  rfl

/-! ### Calls and sessions

A call and a session are put together from the same parts, so it is enough to compare them at a single
question and in sequence. -/

section

variable (p) (user) {γ : Type}

/-- A call breaks off where a session goes on. What was said and answered up to this point is the same, and
the next question of the session is the first whose judge bursts. -/
structure BreaksOff (past : List (Condition × Truth)) (call : Except Wreck γ × Minutes)
    (session : γ × Minutes) : Prop where
  said : call.2.1 <+: session.2.1
  began : past <+: call.2.2
  harmless : p.Harmless anyKind user past call.2.2
  burst : ∃ wreck c answer, call.1 = .error wreck ∧ p.burst? anyKind user call.2.2 c = some wreck ∧
    call.2.2 ++ [(c, answer)] <+: session.2.2

/-- A call goes as a session does, which takes back nothing that was said or noted, or it breaks off. -/
def Follows (call : Attempt Minutes γ) (session : StateM Minutes γ) : Prop :=
  ∀ s : Minutes, s.1 <+: (session s).2.1 ∧ s.2 <+: (session s).2.2 ∧
    (p.Harmless anyKind user s.2 (session s).2.2 ∧ call s = (.ok (session s).1, (session s).2) ∨
      p.BreaksOff user s.2 (call s) (session s))

end

namespace Follows

variable {γ δ : Type}

theorem pure (answer : γ) : p.Follows user (pure answer) (pure answer) := fun s =>
  ⟨List.prefix_refl _, List.prefix_refl _, .inl ⟨.refl s.2, rfl⟩⟩

theorem say (notice : Notice) : p.Follows user (sayInCall notice) (Evaluator.sayBeside notice) := fun s =>
  ⟨List.prefix_append _ _, List.prefix_refl _, .inl ⟨.refl s.2, rfl⟩⟩

theorem ask (c : Condition) : p.Follows user (p.callCondition user c) (p.ask user c) := by
  rintro ⟨log, past⟩
  have said : log <+: (p.ask user c (log, past)).2.1 := by
    rw [ask_eq]
    exact List.prefix_append _ _
  have noted : (p.ask user c (log, past)).2.2 = past ++ [(c, (p.ask user c (log, past)).1)] := by
    rw [ask_eq]
  refine ⟨said, noted ▸ List.prefix_append _ _, ?_⟩
  cases burst : p.burst? anyKind user past c with
  | none =>
    rw [noted]
    exact .inl ⟨(harmless_concat_iff _).mpr burst, callCondition_of_none burst⟩
  | some wreck =>
    right
    rw [callCondition_of_some burst]
    have next : past ++ [(c, (p.ask user c (log, past)).1)] <+: (p.ask user c (log, past)).2.2 := by
      simp [noted]
    exact ⟨said, List.prefix_refl _, .refl past, wreck, c, _, rfl, burst, next⟩

theorem bind {x : Attempt Minutes γ} {y : StateM Minutes γ} {f : γ → Attempt Minutes δ}
    {g : γ → StateM Minutes δ} (h : p.Follows user x y) (k : ∀ a, p.Follows user (f a) (g a)) :
    p.Follows user (x >>= f) (y >>= g) := by
  intro s
  change s.1 <+: (g (y s).1 (y s).2).2.1 ∧ s.2 <+: (g (y s).1 (y s).2).2.2 ∧ _
  obtain ⟨said, noted, first⟩ := h s
  obtain ⟨said', noted', second⟩ := k (y s).1 (y s).2
  refine ⟨said.trans said', noted.trans noted', ?_⟩
  -- If the first part returns, the second one decides. If it breaks off, so does the whole, at the same
  -- question, while the session goes on with the second part.
  rcases first with ⟨harmless, returned⟩ | broken
  · rw [Evaluator.bind_of_ok returned]
    rcases second with ⟨harmless', returned'⟩ | broken
    · exact .inl ⟨(harmless_trans_iff noted noted').mpr ⟨harmless, harmless'⟩, returned'⟩
    · exact .inr ⟨broken.said, noted.trans broken.began,
        (harmless_trans_iff noted broken.began).mpr ⟨harmless, broken.harmless⟩, broken.burst⟩
  · obtain ⟨wreck, c, answer, failed, burst, asked⟩ := broken.burst
    have ended : x s = (.error wreck, (x s).2) := Prod.ext failed rfl
    rw [Evaluator.bind_of_error ended]
    exact .inr ⟨broken.said.trans said', broken.began, broken.harmless, wreck, c, answer, rfl, burst,
      asked.trans noted'⟩

variable {call : Attempt Minutes γ} {session : StateM Minutes γ}

/-- A call returns exactly if no judge bursts at a question of the session. -/
theorem returns_iff (h : p.Follows user call session) : (∃ answer, (call (log, past)).1 = .ok answer) ↔
    p.Harmless anyKind user past (session (log, past)).2.2 := by
  obtain ⟨-, -, ⟨harmless, returned⟩ | broken⟩ := h (log, past)
  · exact ⟨fun _ => harmless, fun _ => ⟨_, congrArg Prod.fst returned⟩⟩
  · obtain ⟨wreck, c, answer, failed, burst, asked⟩ := broken.burst
    constructor
    · rintro ⟨answer, returned⟩
      cases failed.symm.trans returned
    · intro harmless
      cases burst.symm.trans (harmless broken.began asked)

theorem eq_of_harmless (h : p.Follows user call session)
    (harmless : p.Harmless anyKind user past (session (log, past)).2.2) :
    call (log, past) = (.ok (session (log, past)).1, (session (log, past)).2) := by
  obtain ⟨-, -, ⟨-, returned⟩ | broken⟩ := h (log, past)
  · exact returned
  · obtain ⟨wreck, c, answer, -, burst, asked⟩ := broken.burst
    cases burst.symm.trans (harmless broken.began asked)

end Follows

theorem follows_call (targeting : Option (Tree String)) (catalogue : Catalogue) :
    p.Follows user (p.call targeting catalogue user) (p.evaluate targeting catalogue user) :=
  Evaluator.evaluateBy_related catalogue Follows.pure Follows.bind (fun notice _ => .say notice) .ask
    targeting

theorem follows_callAudience (catalogue : Catalogue) (id : String) :
    p.Follows user (p.callAudience catalogue user id) (p.askAudience catalogue user id) :=
  Evaluator.askAudienceBy_related catalogue Follows.pure Follows.bind (fun notice _ => .say notice) .ask
    id

/-! ### Failures that are harmless -/

/-- Two calls return the same answer, and what was said and answered in them differs by complaints only. -/
def GoesAs {γ : Type} (p : Panel) (kinds : String → Bool) (user : User) (log log' : List Notice)
    (past : List (Condition × Truth)) (call call' : Except Wreck γ × Minutes) : Prop :=
  ∃ answer, call.1 = .ok answer ∧ call'.1 = .ok answer ∧ p.Quieter kinds user log log' past call.2 call'.2

section

variable {γ : Type} {kinds : String → Bool} {log' : List Notice} {call call' : Attempt Minutes γ}
  {session session' : StateM Minutes γ}

/-- A call goes as one to the calmed panel if it returns at all. It does so exactly if the one to the calmed
panel returns and no judge who was calmed would have burst at a question in it. -/
theorem goesAs_iff (h : p.Follows user call session) (h' : (p.calmed kinds).Follows user call' session')
    (steps : Lockstep (p.Quieter kinds user log log' past) session session') :
    (p.GoesAs kinds user log log' past (call (log, past)) (call' (log', past)) ↔
      ∃ answer, (call (log, past)).1 = .ok answer) ∧
    ((∃ answer, (call (log, past)).1 = .ok answer) ↔
      (∃ answer, (call' (log', past)).1 = .ok answer) ∧
        p.Harmless kinds user past (call' (log', past)).2.2) := by
  -- The sessions go on after bursts, so they can be compared whatever becomes of the calls. The same is asked
  -- in both, and each call returns exactly if none of its judges bursts at any of it.
  obtain ⟨same, quieter⟩ := steps (Quieter.refl past)
  have asked : (session (log, past)).2.2 = (session' (log', past)).2.2 := by
    obtain ⟨said, asked, minutes, minutes', -⟩ := quieter
    rw [minutes, minutes']
  have returns : (∃ answer, (call (log, past)).1 = .ok answer) ↔
      (∃ answer, (call' (log', past)).1 = .ok answer) ∧
        p.Harmless kinds user past (call' (log', past)).2.2 := by
    rw [h.returns_iff, asked, harmless_anyKind_iff kinds, ← h'.returns_iff, and_comm]
    refine and_congr_right fun returned' => ?_
    rw [h'.eq_of_harmless (h'.returns_iff.mp returned')]
  refine ⟨⟨fun ⟨answer, returned, _⟩ => ⟨answer, returned⟩, fun returned => ?_⟩, returns⟩
  have returned' := (returns.mp returned).1
  rw [h.eq_of_harmless (h.returns_iff.mp returned), h'.eq_of_harmless (h'.returns_iff.mp returned'),
    ← same]
  exact ⟨_, rfl, rfl, quieter⟩

/-- When the judges of all kinds are calmed, none bursts. -/
theorem harmless_calmed (all : ∀ kind, kinds kind) (noted : List (Condition × Truth)) :
    (p.calmed kinds).Harmless anyKind user past noted := by
  intro before c answer _ _
  rw [burst?_calmed]
  unfold burst?
  split <;> simp [all]

end

/-! ### Judges who remember nothing, and judges who are not heard -/

/-- A call without minutes goes as one with minutes. -/
def Unnoted {γ : Type} (call : Attempt (List Notice) γ) (noted : Attempt Minutes γ) : Prop :=
  ∀ log past, call log = ((noted (log, past)).1, (noted (log, past)).2.1)

namespace Unnoted

variable {γ δ : Type}

theorem bind {x : Attempt (List Notice) γ} {y : Attempt Minutes γ} {f : γ → Attempt (List Notice) δ}
    {g : γ → Attempt Minutes δ} (h : Unnoted x y) (k : ∀ a, Unnoted (f a) (g a)) :
    Unnoted (x >>= f) (y >>= g) := by
  intro log past
  have first := h log past
  rcases noted : y (log, past) with ⟨_ | answer, log', past'⟩
  · rw [noted] at first
    rw [Evaluator.bind_of_error first, Evaluator.bind_of_error noted]
  · rw [noted] at first
    rw [Evaluator.bind_of_ok first, Evaluator.bind_of_ok noted]
    exact k answer log' past'

theorem callCondition (judges : List (String × Judge)) (user : User) (c : Condition) :
    Unnoted ((Evaluator.ofList judges).callCondition user c) ((lasting judges).callCondition user c) := by
  intro log past
  have same : (lasting judges).evaluator past = Evaluator.ofList judges := rfl
  rw [callCondition_apply, same]
  rcases (Evaluator.ofList judges).callCondition user c log with ⟨_ | answer, log'⟩ <;> rfl

end Unnoted

/-- Judges for kinds with fixed rules are never heard. -/
theorem callCondition_congr {p q : Panel}
    (agree : ∀ past kind, kind ≠ "custom_attribute" → kind ≠ "third_party_dimension" →
      (p.judges past).lookup kind = (q.judges past).lookup kind) :
    p.callCondition user = q.callCondition user := by
  have called (past : List (Condition × Truth)) (c : Condition) :
      (p.evaluator past).callCondition user c = (q.evaluator past).callCondition user c := by
    -- Conditions of the two kinds with fixed rules do not come to the judges at all.
    cases routed : Condition.Kind.ofText c.kind with
    | other kind =>
      obtain ⟨rfl, notAttribute, notSegment⟩ := Condition.Kind.eq_of_ofText routed
      have same := agree past c.kind notAttribute notSegment
      simp only [Evaluator.callCondition, Evaluator.burst?, Evaluator.askCondition, Evaluator.judge, routed,
        evaluator, Evaluator.lookup_ofList routed, same]
    | _ =>
      simp only [Evaluator.callCondition, Evaluator.burst?, Evaluator.askCondition, Evaluator.judge, routed]
  funext c s
  obtain ⟨log, past⟩ := s
  rw [callCondition_apply, callCondition_apply, called]

/-! ### What judges cannot do -/

/-- What judges cannot do, whatever they remember and however they fail, and what they can. Those for the two
kinds with fixed rules make no difference: panels that have the same judges of all other kinds give the same
calls. Failures make no difference but complaints as long as clearing up after them goes well: a call that
returns goes as one in which the judges of any chosen kinds leave open what they fail at, and what is said is
the same but for complaints, of which there is one for each of these failures. It returns exactly if the
other call does, which is certain if all kinds are chosen, and none of the chosen judges bursts at a question
in it. The calls with judges who remember nothing are those of an evaluator. -/
theorem cannot_interfere (catalogue : Catalogue) (user : User) (p q : Panel)
    (agree : ∀ past kind, kind ≠ "custom_attribute" → kind ≠ "third_party_dimension" →
      (p.judges past).lookup kind = (q.judges past).lookup kind) :
    ((∀ targeting, p.call targeting catalogue user = q.call targeting catalogue user) ∧
      ∀ id, p.callAudience catalogue user id = q.callAudience catalogue user id) ∧
    (∀ (kinds : String → Bool) (log log' : List Notice) (past : List (Condition × Truth)),
      (∀ targeting,
        let session := p.call targeting catalogue user (log, past)
        let calm := (p.calmed kinds).call targeting catalogue user (log', past)
        (p.GoesAs kinds user log log' past session calm ↔ ∃ answer, session.1 = .ok answer) ∧
        ((∃ answer, session.1 = .ok answer) ↔
          (∃ answer, calm.1 = .ok answer) ∧ p.Harmless kinds user past calm.2.2) ∧
        ((∀ kind, kinds kind) → ∃ answer, calm.1 = .ok answer)) ∧
      (∀ id,
        let session := p.callAudience catalogue user id (log, past)
        let calm := (p.calmed kinds).callAudience catalogue user id (log', past)
        (p.GoesAs kinds user log log' past session calm ↔ ∃ answer, session.1 = .ok answer) ∧
        ((∃ answer, session.1 = .ok answer) ↔
          (∃ answer, calm.1 = .ok answer) ∧ p.Harmless kinds user past calm.2.2) ∧
        ((∀ kind, kinds kind) → ∃ answer, calm.1 = .ok answer)) ∧
      ∀ notice : Notice, notice.isComplaint kinds → notice.record.level = .warn ∧
        notice.record.fields = [("message", "CONDITION_EVALUATOR_FAILED")]) ∧
    ∀ (judges : List (String × Judge)) (log : List Notice) (past : List (Condition × Truth)),
      (∀ targeting,
        let session := (lasting judges).call targeting catalogue user (log, past)
        (Evaluator.ofList judges).call targeting catalogue user log = (session.1, session.2.1)) ∧
      ∀ id,
        let session := (lasting judges).callAudience catalogue user id (log, past)
        (Evaluator.ofList judges).callAudience catalogue user id log = (session.1, session.2.1) := by
  refine ⟨⟨?_, ?_⟩, fun kinds log log' past => ⟨?_, ?_, ?_⟩, fun judges log past => ⟨?_, ?_⟩⟩
  · intro targeting
    rw [call, callCondition_congr agree]
    rfl
  · intro id
    rw [callAudience, callCondition_congr agree]
    rfl
  · intro targeting
    have calmed : (p.calmed kinds).Follows user ((p.calmed kinds).call targeting catalogue user) _ :=
      follows_call targeting catalogue
    obtain ⟨same, returns⟩ := goesAs_iff (follows_call targeting catalogue) calmed
      (p.lockstep_evaluate kinds targeting catalogue user log log' past)
    exact ⟨same, returns, fun all => calmed.returns_iff.mpr (harmless_calmed all _)⟩
  · intro id
    have calmed : (p.calmed kinds).Follows user ((p.calmed kinds).callAudience catalogue user id) _ :=
      follows_callAudience catalogue id
    obtain ⟨same, returns⟩ := goesAs_iff (follows_callAudience catalogue id) calmed
      (p.lockstep_askAudience kinds catalogue user log log' past id)
    exact ⟨same, returns, fun all => calmed.returns_iff.mpr (harmless_calmed all _)⟩
  · intro notice complaint
    exact Notice.record_of_isComplaint complaint
  · intro targeting
    exact Evaluator.evaluateBy_related catalogue (fun _ _ _ => rfl) Unnoted.bind (fun _ _ _ _ => rfl)
      (Unnoted.callCondition judges user) targeting log past
  · intro id
    exact Evaluator.askAudienceBy_related catalogue (fun _ _ _ => rfl) Unnoted.bind (fun _ _ _ _ => rfl)
      (Unnoted.callCondition judges user) id log past

/-- A judge of wines who answers no the first time and crashes from then on. -/
def taster : Panel where
  judges past := [("wine", fun _ _ => if past = [] then .answer .no else .crashed (.text "hic"))]

/-- The same judge beside one for attributes, who would always answer no. -/
def tasterAndUsurper : Panel where
  judges past := ("custom_attribute", fun _ _ => .answer .no) :: taster.judges past

/-- A judge of wines who crashes and leaves something behind that crashes when it is thrown away. -/
def brittle : Panel := lasting [("wine", fun _ _ => .crashed (.fragile (.text "crack")))]

/-- An audience for those who like one of two wines or have a plan. -/
def regulars : Audience where
  id := "regulars"
  name := "Regulars"
  conditions := .node .or
    [.leaf { name := "red", kind := "wine" }, .leaf { name := "white", kind := "wine" },
      .leaf { name := "plan", kind := "custom_attribute", operator := some "exists" }]

/-- A user with a plan. -/
def guest : User := { id := "u", attributes := [("plan", .text "gold")] }

/-- The second wine is left open, with a complaint, and the plan is found. -/
theorem cannot_interfere_wine :
    tasterAndUsurper.callAudience (fun _ => some regulars) guest "regulars" =
      taster.callAudience (fun _ => some regulars) guest "regulars" ∧
    tasterAndUsurper.GoesAs (· = "wine") guest [] [] []
      (tasterAndUsurper.callAudience (fun _ => some regulars) guest "regulars" ([], []))
      ((tasterAndUsurper.calmed (· = "wine")).callAudience (fun _ => some regulars) guest "regulars"
        ([], [])) ∧
    (tasterAndUsurper.callAudience (fun _ => some regulars) guest "regulars" ([], [])).1 = .ok .yes := by
  have agree : ∀ past kind, kind ≠ "custom_attribute" → kind ≠ "third_party_dimension" →
      (tasterAndUsurper.judges past).lookup kind = (taster.judges past).lookup kind := by
    intro past kind notAttribute _
    rw [tasterAndUsurper, List.lookup_cons, beq_eq_false_iff_ne.mpr notAttribute]
  have calls := cannot_interfere (fun _ => some regulars) guest tasterAndUsurper taster agree
  have returned : (tasterAndUsurper.callAudience (fun _ => some regulars) guest "regulars" ([], [])).1 =
      .ok .yes := rfl
  refine ⟨calls.1.2 "regulars", ?_, returned⟩
  exact ((calls.2.1 (· = "wine") [] [] []).2.1 "regulars").1.mpr ⟨.yes, returned⟩

/-- With a judge who bursts, the call breaks off at the first wine. If he left it open, the plan would be
found. -/
theorem not_goesAs_of_fragile :
    brittle.callAudience (fun _ => some regulars) guest "regulars" ([], []) =
      (.error (.text "crack"), [.started "regulars" regulars], []) ∧
    ((brittle.calmed anyKind).callAudience (fun _ => some regulars) guest "regulars" ([], [])).1 =
      .ok .yes ∧
    ¬ brittle.GoesAs anyKind guest [] [] []
      (brittle.callAudience (fun _ => some regulars) guest "regulars" ([], []))
      ((brittle.calmed anyKind).callAudience (fun _ => some regulars) guest "regulars" ([], [])) := by
  have broken : brittle.callAudience (fun _ => some regulars) guest "regulars" ([], []) =
      (.error (.text "crack"), [.started "regulars" regulars], []) := rfl
  refine ⟨broken, rfl, ?_⟩
  rintro ⟨answer, returned, -⟩
  rw [broken] at returned
  cases returned

end Panel

end Targeting
