import Targeting.Proofs.Audience.Panel

/-!
# The account of a session

What is written down about a session can be told from what was asked and answered. There is one section for
each audience that was asked for, in the order in which they were. A missing audience has a single record.
Any other has one that names its conditions, then one for each question that was not decided, and at last
one with the answer. An early stop, in an audience or in the targeting, leaves nothing open behind it: a
section that was begun is ended, and a question that was not put leaves no trace.

The judges may remember what they have been asked, so a section depends on all that came before it. A
*hearing* holds what happened to one audience; the hearings of a session follow from one another.

## Main definitions

* `Tree.Asks`, `Tree.visits` — asking for leaves in turn, and the leaves that evaluation asks for
* `Panel.Hearing`, `Panel.Hearing.records` — what happened to an audience, and what is written down about it
* `Panel.Hearing.Truthful`, `Panel.Hears` — hearings that tell what happened, and hearings in turn

## Main results

* `Tree.exists_asks` — evaluation asks for the visited leaves in turn
* `Panel.calls_of_asks`, `Panel.exists_hearing` — conditions and audiences that are asked for
* `Panel.account_of_session` — the account of a session
-/

namespace Targeting

/-! ### Leaves in turn -/

namespace Tree

variable {α σ : Type} {ask : α → StateM σ Truth}

/-- Leaves are asked for in turn, from one state to another, and have these answers. -/
inductive Asks (ask : α → StateM σ Truth) : σ → List (α × Truth) → σ → Prop
  | nil (s : σ) : Asks ask s [] s
  | cons {a : α} {s s' : σ} {visits : List (α × Truth)} (later : Asks ask (ask a s).2 visits s') :
    Asks ask s ((a, (ask a s).1) :: visits) s'

theorem Asks.concat {s s' : σ} {visits : List (α × Truth)} (h : Asks ask s visits s') (a : α) :
    Asks ask s (visits ++ [(a, (ask a s').1)]) (ask a s').2 := by
  induction h with
  | nil s => exact .cons (.nil _)
  | cons _ ih => exact .cons ih

/-- An evaluation with notes beside the plain one: both are in the same state, and the notes are what was
asked in turn. -/
def NotesInTurn (ask : α → StateM σ Truth) (s : σ) (noting : σ × List (α × Truth)) (now : σ) : Prop :=
  noting.1 = now ∧ Asks ask s noting.2 now

theorem lockstep_notesInTurn (ask : α → StateM σ Truth) (s : σ) (a : α) :
    Lockstep (NotesInTurn ask s) (askNoted ask a) (ask a) := by
  rintro ⟨_, noted⟩ now ⟨rfl, asked⟩
  exact ⟨rfl, rfl, asked.concat a⟩

/-- The leaves that evaluation asks for with their answers, when answers are given to the places of leaves
in the tree. -/
def visits (answer : Nat → Truth) (t : Tree α) : List (α × Truth) :=
  ((t.number 0).visited fun a => answer a.2).map fun a => (a.1, answer a.2)

/-- Evaluation asks for the visited leaves in turn, and gives the value of the tree. -/
theorem exists_asks (ask : α → StateM σ Truth) (t : Tree α) (s : σ) : ∃ answer : Nat → Truth,
    (t.evaluate ask s).1 = (t.number 0).value (fun a => answer a.2) ∧
      Asks ask s (t.visits answer) (t.evaluate ask s).2 := by
  obtain ⟨answer, s', run⟩ := notes_evaluate ask t 0 s
  have start : NotesInTurn ask s (s, []) s := ⟨rfl, .nil s⟩
  have asked := (Lockstep.evaluate (lockstep_notesInTurn ask s) t start).2.2
  have notes : visitsIn answer [t.number 0] = t.visits answer := by simp [visitsIn, visits]
  rw [run.noting_eq, List.nil_append, notes] at asked
  exact ⟨answer, congrArg Prod.fst run.plain_eq, asked⟩

end Tree

open Audience (Notice)

/-! ### Questions to a panel -/

namespace Panel

/-- A question that was put to a panel, and what it was judged. -/
structure Call where
  condition : Condition
  judgement : Except Condition.Problem Truth

namespace Call

/-- The answer that remains of a judgement: one that failed leaves the condition open. -/
def answer (call : Call) : Truth :=
  match call.judgement with
  | .ok answer => answer
  | .error _ => .unknown

/-- The condition with the answer that remains. -/
def answered (call : Call) : Condition × Truth := (call.condition, call.answer)

/-- The level at which a problem is written down: it is nothing unusual that a user has no value for an
attribute. -/
def level : Condition.Problem → Log.Level
  | .missingAttribute _ => .debug
  | .nullAttribute _ => .debug
  | _ => .warn

/-- What is written down about a question: its problem with the stable name of it, if there is one. -/
def records (call : Call) : List Log.Record :=
  match call.judgement with
  | .ok _ => []
  | .error problem => [⟨level problem, problem.message, [("message", problem.key)]⟩]

end Call

variable (p : Panel) (user : User)

/-- The calls of some conditions in turn, when others have been answered before. -/
def calls (past : List (Condition × Truth)) : List Condition → List Call
  | [] => []
  | c :: cs =>
    let call := ⟨c, (p.evaluator past).judge user c⟩
    call :: calls (past ++ [call.answered]) cs

theorem records_notices (e : Evaluator) (c : Condition) :
    (e.notices user c).map Notice.record = Call.records ⟨c, e.judge user c⟩ := by
  unfold Evaluator.notices Call.records
  cases e.judge user c with
  | ok answer => rfl
  | error problem => cases problem <;> rfl

/-- Conditions that are asked for in turn are called in turn, and what is said about them is written down in
the same order. -/
theorem calls_of_asks {log : List Notice} {past : List (Condition × Truth)}
    {visits : List (Condition × Truth)} {s : Minutes} (h : Tree.Asks (p.ask user) (log, past) visits s) :
    visits = (p.calls user past (visits.map Prod.fst)).map Call.answered ∧
      s.2 = past ++ visits ∧
      s.1.map Notice.record = log.map Notice.record ++
        (p.calls user past (visits.map Prod.fst)).flatMap Call.records := by
  generalize start : (log, past) = s₀ at h
  induction h generalizing log past with
  | nil s =>
    subst start
    simp [calls]
  | @cons c s s' visits later ih =>
    subst start
    rw [ask_eq] at ih ⊢
    obtain ⟨answers, asked, records⟩ := ih rfl
    let call : Call := ⟨c, (p.evaluator past).judge user c⟩
    have made : p.calls user past (c :: visits.map Prod.fst) =
        call :: p.calls user (past ++ [call.answered]) (visits.map Prod.fst) := rfl
    refine ⟨?_, ?_, ?_⟩
    · rw [List.map_cons, made, List.map_cons]
      exact congrArg (call.answered :: ·) answers
    · rw [asked, List.append_assoc]
      rfl
    · rw [records, List.map_append, records_notices, List.map_cons, made, List.flatMap_cons,
        List.append_assoc]
      rfl

/-! ### Hearings -/

/-- What happened when an audience was asked for: the questions that were put, and the answer. -/
structure Hearing where
  id : String
  calls : List Call
  answer : Truth

namespace Hearing

variable (catalogue : Catalogue) (h : Hearing)

/-- What is written down about an audience. -/
def records : List Log.Record :=
  match catalogue h.id with
  | none => [⟨.debug, "audience not found, evaluating to UNKNOWN", [("audience_id", h.id)]⟩]
  | some audience =>
    ⟨.debug, "starting to evaluate audience \"" ++ h.id ++ "\" with conditions: "
      ++ audience.conditionsText, [("audience_id", h.id)]⟩ ::
    (h.calls.flatMap Call.records ++
      [⟨.info, "audience \"" ++ h.id ++ "\" evaluated to " ++ h.answer.text,
        [("audience_id", h.id), ("result", h.answer.text)]⟩])

/-- The conditions that were asked with their answers. -/
def answered : List (Condition × Truth) := h.calls.map Call.answered

/-- A hearing tells what happened, when some conditions had been answered before. The questions that were
put are those that matter for the conditions of the audience; each was put to the judges as they were at
this point; and the answer is the value of the conditions, which is what was returned. -/
structure Truthful (p : Panel) (user : User) (past : List (Condition × Truth)) : Prop where
  put : ∃ answers : Nat → Truth, h.answered = (catalogue.conditions h.id).visits answers ∧
    h.answer = ((catalogue.conditions h.id).number 0).value fun c => answers c.2
  judged : h.calls = p.calls user past (h.calls.map Call.condition)
  returned : ∀ log, (p.askAudience catalogue user h.id (log, past)).1 = h.answer

end Hearing

variable (catalogue : Catalogue)

/-- Hearings follow from one another: each tells what happened after those before it. -/
inductive Hears : List (Condition × Truth) → List Hearing → Prop
  | nil (past : List (Condition × Truth)) : Hears past []
  | cons {past : List (Condition × Truth)} {h : Hearing} {hs : List Hearing}
    (first : h.Truthful catalogue p user past) (later : Hears (past ++ h.answered) hs) :
    Hears past (h :: hs)

variable {p user catalogue} {id : String} {audience : Audience} {log : List Notice}
  {past : List (Condition × Truth)}

/-- What was said before has no influence on an answer. -/
theorem askAudience_fst_congr (id : String) (log log' : List Notice) :
    (p.askAudience catalogue user id (log, past)).1 =
      (p.askAudience catalogue user id (log', past)).1 := by
  have told (notice : Notice) : Lockstep (fun s t : Minutes => s.2 = t.2) (Evaluator.sayBeside notice)
      (Evaluator.sayBeside notice) := by
    rintro ⟨_, _⟩ ⟨_, _⟩ same
    exact ⟨rfl, same⟩
  have asked (c : Condition) : Lockstep (fun s t : Minutes => s.2 = t.2) (p.ask user c) (p.ask user c) := by
    rintro ⟨_, _⟩ ⟨_, _⟩ rfl
    rw [ask_eq, ask_eq]
    exact ⟨rfl, rfl⟩
  have same : (log, past).2 = (log', past).2 := rfl
  exact (Lockstep.askAudienceBy_of_told catalogue (fun notice _ => told notice) asked id same).1

theorem askAudience_of_eq_none (missing : catalogue id = none) :
    p.askAudience catalogue user id (log, past) = (.unknown, log ++ [.notFound id], past) := by
  simp only [askAudience, Evaluator.askAudienceBy, missing]
  rfl

theorem askAudience_of_eq_some (found : catalogue id = some audience) :
    p.askAudience catalogue user id (log, past) =
      let course := audience.conditions.evaluate (p.ask user) (log ++ [.started id audience], past)
      (course.1, course.2.1 ++ [.judged id course.1], course.2.2) := by
  simp only [askAudience, Evaluator.askAudienceBy, found]
  rfl

/-- Asking for an audience is a hearing. -/
theorem exists_hearing (id : String) (log : List Notice) (past : List (Condition × Truth)) :
    let session := p.askAudience catalogue user id (log, past)
    ∃ h : Hearing, (id, session.1) = (h.id, h.answer) ∧ h.Truthful catalogue p user past ∧
      session.2.2 = past ++ h.answered ∧
      session.2.1.map Notice.record = log.map Notice.record ++ h.records catalogue := by
  intro session
  have returned (log' : List Notice) : (p.askAudience catalogue user id (log', past)).1 = session.1 :=
    askAudience_fst_congr id log' log
  cases found : catalogue id with
  | none =>
    have unanswered : session = (.unknown, log ++ [.notFound id], past) := askAudience_of_eq_none found
    refine ⟨⟨id, [], session.1⟩, rfl, ⟨⟨fun _ => .unknown, ?_⟩, rfl, returned⟩, ?_, ?_⟩
    · simp [unanswered, Catalogue.conditions, found, Hearing.answered, Tree.visits, Tree.number,
        Tree.numberAll, Operator.combine, Operator.consulted]
    · simp [unanswered, Hearing.answered]
    · simp [unanswered, Hearing.records, found, Notice.record]
  | some audience =>
    have course : session = _ := askAudience_of_eq_some found
    obtain ⟨answers, value, asked⟩ :=
      Tree.exists_asks (p.ask user) audience.conditions (log ++ [.started id audience], past)
    obtain ⟨made, after, records⟩ := calls_of_asks p user asked
    let calls := p.calls user past ((audience.conditions.visits answers).map Prod.fst)
    have conditions : calls.map Call.condition = (audience.conditions.visits answers).map Prod.fst := by
      conv_rhs => rw [made, List.map_map]
      rfl
    have own : catalogue.conditions id = audience.conditions := by rw [Catalogue.conditions, found]
    refine ⟨⟨id, calls, session.1⟩, rfl, ⟨⟨answers, ?_, ?_⟩, ?_, returned⟩, ?_, ?_⟩
    · exact made.symm.trans (congrArg _ own.symm)
    · rw [course, own]
      exact value
    · rw [conditions]
    · rw [course]
      exact after.trans (congrArg _ made)
    · rw [course, List.map_append, records]
      simp [Hearing.records, found, Notice.record, calls]

/-- Audiences that are asked for in turn are heard in turn. -/
theorem hearings_of_asks {visits : List (String × Truth)} {s : Minutes}
    (h : Tree.Asks (p.askAudience catalogue user) (log, past) visits s) :
    ∃ hearings : List Hearing, (hearings.map fun h => (h.id, h.answer)) = visits ∧
      p.Hears user catalogue past hearings ∧ s.2 = past ++ hearings.flatMap Hearing.answered ∧
      s.1.map Notice.record =
        log.map Notice.record ++ hearings.flatMap (Hearing.records catalogue) := by
  generalize start : (log, past) = s₀ at h
  induction h generalizing log past with
  | nil s =>
    subst start
    exact ⟨[], rfl, .nil past, by simp, by simp⟩
  | @cons id s s' visits later ih =>
    subst start
    obtain ⟨first, told, truthful, asked, records⟩ := exists_hearing id log past
    obtain ⟨hearings, answers, hears, after, further⟩ := ih rfl
    rw [asked] at hears after
    refine ⟨first :: hearings, ?_, .cons truthful hears, ?_, ?_⟩
    · rw [List.map_cons, answers, ← told]
    · rw [after, List.append_assoc, List.flatMap_cons]
    · rw [further, records, List.append_assoc, List.flatMap_cons]

theorem hearings_of_evaluate (targeting : Option (Tree String)) (log : List Notice)
    (past : List (Condition × Truth)) :
    let session := p.evaluate targeting catalogue user (log, past)
    ∃ (answers : Nat → Truth) (hearings : List Hearing),
      session.1 = targeting.all (fun t => ((t.number 0).value fun id => answers id.2).holds) ∧
      (hearings.map fun h => (h.id, h.answer)) = targeting.elim [] (·.visits answers) ∧
      p.Hears user catalogue past hearings ∧
      session.2.2 = past ++ hearings.flatMap Hearing.answered ∧
      session.2.1.map Notice.record =
        log.map Notice.record ++ hearings.flatMap (Hearing.records catalogue) := by
  intro session
  cases targeting with
  | none =>
    have silent : session = (true, log, past) := rfl
    exact ⟨fun _ => .unknown, [], rfl, rfl, .nil past, by simp [silent], by simp [silent]⟩
  | some targeting =>
    obtain ⟨answers, value, asked⟩ :=
      Tree.exists_asks (p.askAudience catalogue user) targeting (log, past)
    obtain ⟨hearings, visits, hears, after, records⟩ := hearings_of_asks asked
    exact ⟨answers, hearings, congrArg Truth.holds value, visits, hears, after, records⟩

end Panel

/-! ### Judges who remember nothing -/

namespace Evaluator

open Panel (Call Hearing)

variable (e : Evaluator) (catalogue : Catalogue) (user : User)

/-- What happens when an audience is asked for. It is the same every time. -/
def hearing (id : String) : Hearing where
  id := id
  calls := ((catalogue.conditions id).visited (e.answer user)).map fun c => ⟨c, e.judge user c⟩
  answer := e.audienceAnswer catalogue user id

theorem records_foldl {α : Type} {next : List Notice → α → List Notice} {records : α → List Log.Record}
    (step : ∀ log a, (next log a).map Notice.record = log.map Notice.record ++ records a)
    (as : List α) (log : List Notice) :
    (as.foldl next log).map Notice.record = log.map Notice.record ++ as.flatMap records := by
  induction as generalizing log with
  | nil => simp
  | cons a as ih => rw [List.foldl_cons, ih, step, List.append_assoc, List.flatMap_cons]

theorem records_askAudience (log : List Notice) (id : String) :
    (e.askAudience catalogue user id log).2.map Notice.record =
      log.map Notice.record ++ (e.hearing catalogue user id).records catalogue := by
  have told (log : List Notice) (c : Condition) : (log ++ e.notices user c).map Notice.record =
      log.map Notice.record ++ Call.records ⟨c, e.judge user c⟩ := by
    rw [List.map_append, Panel.records_notices]
  cases found : catalogue id with
  | none =>
    simp only [askAudience, askAudienceBy, found, hearing, Hearing.records]
    exact List.map_append
  | some audience =>
    have own : catalogue.conditions id = audience.conditions := by rw [Catalogue.conditions, found]
    have course := Tree.evaluate_of_answer (e.askCondition_eq user) audience.conditions
      (log ++ [.started id audience])
    have session : (e.askAudience catalogue user id log).2 =
        (audience.conditions.evaluate (e.askCondition user) (log ++ [.started id audience])).2 ++
          [.judged id (e.audienceAnswer catalogue user id)] := by
      rw [← e.askAudience_fst catalogue user log]
      simp only [askAudience, askAudienceBy, found]
      rfl
    rw [session, course, List.map_append, records_foldl told, List.map_append, Hearing.records]
    simp only [hearing, found, own]
    simp [Notice.record, List.flatMap_map]

theorem records_evaluate (targeting : Option (Tree String)) (log : List Notice) :
    (e.evaluate targeting catalogue user log).2.map Notice.record = log.map Notice.record ++
      (targeting.elim [] (·.visited (e.audienceAnswer catalogue user))).flatMap fun id =>
        (e.hearing catalogue user id).records catalogue := by
  cases targeting with
  | none => exact (List.append_nil _).symm
  | some targeting =>
    have course := Tree.evaluate_of_answer
      (fun id log => Prod.ext (e.askAudience_fst catalogue user log id) rfl) targeting log
    have session : (e.evaluate (some targeting) catalogue user log).2 =
        (targeting.evaluate (e.askAudience catalogue user) log).2 := rfl
    rw [session, course, records_foldl (e.records_askAudience catalogue user)]
    rfl

end Evaluator

/-! ### Sessions -/

namespace Panel

/-- The account of a session. The audiences that are asked for are those that matter for the targeting
under their answers, in this order; each is heard in turn; and what is written down is what is written down
about each hearing, one after another. If the judges remember nothing, the audiences that are asked for and
their hearings are known beforehand. -/
theorem account_of_session (targeting : Option (Tree String)) (catalogue : Catalogue) (user : User)
    (log : List Notice) :
    (∀ (p : Panel) (past : List (Condition × Truth)),
      let session := p.evaluate targeting catalogue user (log, past)
      ∃ (answers : Nat → Truth) (hearings : List Hearing),
        session.1 = targeting.all (fun t => ((t.number 0).value fun id => answers id.2).holds) ∧
        (hearings.map fun h => (h.id, h.answer)) = targeting.elim [] (·.visits answers) ∧
        p.Hears user catalogue past hearings ∧
        session.2.2 = past ++ hearings.flatMap Hearing.answered ∧
        session.2.1.map Notice.record =
          log.map Notice.record ++ hearings.flatMap (Hearing.records catalogue)) ∧
    ∀ e : Evaluator,
      let session := e.evaluate targeting catalogue user log
      session.1 = targeting.all (fun t => (t.value (e.audienceAnswer catalogue user)).holds) ∧
      session.2.map Notice.record = log.map Notice.record ++
        (targeting.elim [] (·.visited (e.audienceAnswer catalogue user))).flatMap fun id =>
          (e.hearing catalogue user id).records catalogue :=
  ⟨fun _ past => hearings_of_evaluate targeting log past,
    fun e => ⟨e.evaluate_fst catalogue user log targeting,
      e.records_evaluate catalogue user targeting log⟩⟩

end Panel

end Targeting
