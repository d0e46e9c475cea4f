import Targeting.Proofs.Audience.Inlining

/-!
# Panels of judges who are not trusted

The judges of further kinds of conditions may do what they like. They may remember what they have been
asked, fail with a message, or crash. As long as clearing up after them goes well, they do not interfere
with anything but the conditions of their own kinds: whoever is put in for a kind that has fixed rules is
never heard, and one who fails might as well have left the condition open, except that there is one
complaint for each failure.

The judges form a *panel*, which may change with the questions that have been answered. The *minutes* of
a session are what has been said and what has been asked and answered. Two sessions with different
panels are compared by their minutes. Sessions go on after every failure here; calls may break off.

## Main definitions

* `Panel`, `Panel.evaluate`, `Panel.askAudience` — judges who remember, and sessions with them
* `Panel.calmed` — a panel whose judges of some kinds leave open what they fail at
* `Panel.complaints` — the complaints about failing judges that belong to answered questions
* `Panel.Quieter` — the minutes of two sessions that differ by complaints

## Main results

* `Condition.about_judgeAttribute`, `Condition.about_judgeSegment` — problems name their condition
* `Panel.judge_calmed`, `Panel.lockstep_ask` — a question to a panel and to the calmed panel
* `Panel.lockstep_evaluate`, `Panel.lockstep_askAudience` — sessions with a panel and with the calmed panel
-/

namespace Targeting

/-! ### Problems with conditions -/

namespace Condition

/-- The condition that a problem is about. The failure of a judge is about the judge. -/
def Problem.condition? : Problem → Option Condition
  | missingAttribute c => some c
  | nullAttribute c => some c
  | unfitAttribute c _ => some c
  | unsafeNumber c => some c
  | unfitValue c => some c
  | unknownOperator c => some c
  | unknownKind c => some c
  | invalidVersion c _ => some c
  | judgeFailed _ _ => none

/-- Every problem that a judgement ends with is about a condition. -/
def About {α : Type} (c : Condition) (judgement : Except Problem α) : Prop :=
  ∀ problem, judgement = .error problem → problem.condition? = some c

namespace About

variable {α β : Type} {c : Condition}

theorem ok (x : α) : About c (.ok x) := by
  rintro _ ⟨⟩

theorem error {problem : Problem} (h : problem.condition? = some c) :
    About c (.error problem : Except Problem α) := by
  rintro _ ⟨⟩
  exact h

theorem bind {m : Except Problem α} {f : α → Except Problem β} (h : About c m)
    (k : ∀ x, About c (f x)) : About c (m >>= f) := by
  cases m with
  | ok x => exact k x
  | error problem => exact .error (h problem rfl)

theorem map {m : Except Problem α} (h : About c m) (f : α → β) : About c (m.map f) := by
  cases m with
  | ok x => exact .ok _
  | error problem => exact .error (h problem rfl)

end About

variable (c : Condition)

theorem about_wantedText : About c c.wantedText := by
  unfold wantedText
  split
  · exact .ok _
  · exact .error rfl

theorem about_wantedNumber : About c c.wantedNumber := by
  unfold wantedNumber
  split
  · split
    · exact .ok _
    · exact .error rfl
  · exact .error rfl

theorem condition?_mismatch (value : Attribute) : (c.mismatch value).condition? = some c := by
  cases value <;> rfl

theorem about_actualText (value : Attribute) : About c (c.actualText value) := by
  unfold actualText
  split
  · exact .ok _
  · exact .error (c.condition?_mismatch _)

theorem about_actualNumber (value : Attribute) : About c (c.actualNumber value) := by
  unfold actualNumber
  split
  · split
    · exact .ok _
    · exact .error rfl
  · exact .error (c.condition?_mismatch _)

theorem about_actualBoolean (value : Attribute) : About c (c.actualBoolean value) := by
  unfold actualBoolean
  split
  · exact .ok _
  · exact .error (c.condition?_mismatch _)

theorem about_judgeVersion (accepts : Ordering → Bool) (value : Attribute) :
    About c (c.judgeVersion accepts value) := by
  refine .bind c.about_wantedText fun wanted => .bind (c.about_actualText value) fun actual => ?_
  split
  · exact .ok _
  · exact .error rfl

theorem about_judgeValue (op : Operator) (value : Attribute) : About c (c.judgeValue op value) := by
  cases op with
  | exact =>
    show About c (c.judgeExact value)
    unfold judgeExact
    split
    · exact .bind (c.about_actualText value) fun _ => .ok _
    · exact .bind (c.about_actualBoolean value) fun _ => .ok _
    · exact .bind c.about_wantedNumber fun _ => .bind (c.about_actualNumber value) fun _ => .ok _
  | «exists» => exact .ok _
  | number comparison =>
    exact .bind c.about_wantedNumber fun _ => .bind (c.about_actualNumber value) fun _ => .ok _
  | substring =>
    exact .bind c.about_wantedText fun _ => .bind (c.about_actualText value) fun _ => .ok _
  | sameVersion => exact c.about_judgeVersion _ value
  | version comparison => exact c.about_judgeVersion _ value

/-- Every problem with a condition on an attribute names the condition. -/
theorem about_judgeAttribute (user : User) : About c (c.judgeAttribute user) := by
  unfold judgeAttribute
  split
  · exact .error rfl
  · split
    · exact c.about_judgeValue _ _
    · split
      · exact .ok _
      · exact .error rfl

/-- Every problem with a condition on a segment names the condition. -/
theorem about_judgeSegment (user : User) : About c (c.judgeSegment user) := by
  unfold judgeSegment
  split
  · exact .ok _
  · exact .error rfl

/-- A word that names none of the two kinds with fixed rules names a kind of its own. -/
theorem Kind.eq_of_ofText {word kind : String} (h : ofText word = .other kind) :
    kind = word ∧ word ≠ "custom_attribute" ∧ word ≠ "third_party_dimension" := by
  have same : kind = word := by rw [← text_ofText word, h]; rfl
  refine ⟨same, ?_, ?_⟩
  · rintro rfl
    cases h
  · rintro rfl
    cases h

end Condition

/-! ### Judges who fail -/

namespace Verdict

/-- The message of a judge who fails. -/
def failure? : Verdict → Option String
  | answer _ => none
  | failed message _ => some message
  | crashed wreck => some wreck.message

/-- The verdict that leaves the condition open instead of failing. -/
def calm (v : Verdict) : Verdict := if v.failure?.isSome then answer .unknown else v

end Verdict

/-- The judge who leaves open what the given one fails at. -/
def Judge.calm (judge : Judge) : Judge := fun c user => (judge c user).calm

namespace Evaluator

open Audience (Notice)

variable (e : Evaluator) (user : User) (c : Condition)

/-- What is said about a condition. -/
def notices : List Notice :=
  match e.judge user c with
  | .ok _ => []
  | .error problem => [.problem problem]

theorem askCondition_eq (log : List Notice) :
    e.askCondition user c log = (e.answer user c, log ++ e.notices user c) := by
  unfold askCondition answer notices
  cases e.judge user c with
  | ok answer => exact congrArg (answer, ·) (List.append_nil log).symm
  | error problem => rfl

/-- A judge for a kind that has no fixed rules is admitted. -/
theorem lookup_ofList {word kind : String} (h : Condition.Kind.ofText word = .other kind)
    (judges : List (String × Judge)) :
    (ofList judges).judges.lookup kind = judges.lookup kind := by
  have admitted (judge : Judge) : (!isIgnored (kind, judge)) = true := by
    rw [isIgnored, (Condition.Kind.eq_of_ofText h).1, h]
    rfl
  exact lookup_filter (p := (!isIgnored ·)) admitted judges

/-- What is heard of a judge, and of the judge who leaves open what this one fails at. -/
theorem heard_calm (kind : String) (v : Verdict) :
    (∃ message, v.failure? = some message ∧ heard kind v = .error (.judgeFailed kind message) ∧
      heard kind v.calm = .ok .unknown) ∨
    (v.failure? = none ∧ v.calm = v ∧ ∃ answer, heard kind v = .ok answer) := by
  cases v with
  | answer t => exact .inr ⟨rfl, rfl, t, rfl⟩
  | failed message burst => exact .inl ⟨message, rfl, rfl, rfl⟩
  | crashed wreck => exact .inl ⟨wreck.message, rfl, rfl, rfl⟩

theorem exists_of_heard {v : Verdict} {kind : String} {problem : Condition.Problem}
    (h : heard kind v = .error problem) : ∃ message, problem = .judgeFailed kind message := by
  cases v with
  | answer t => cases h
  | failed message burst => exact ⟨message, (Except.error.inj h).symm⟩
  | crashed wreck => exact ⟨wreck.message, (Except.error.inj h).symm⟩

end Evaluator

namespace Audience.Notice

/-- Whether a notice is a complaint about a failing judge of some kinds. -/
def isComplaint (kinds : String → Bool) : Notice → Bool
  | problem (.judgeFailed kind _) => kinds kind
  | _ => false

/-- A complaint is a warning with a name of its own. -/
theorem record_of_isComplaint {kinds : String → Bool} {notice : Notice}
    (h : notice.isComplaint kinds) :
    notice.record.level = .warn ∧
      notice.record.fields = [("message", "CONDITION_EVALUATOR_FAILED")] := by
  unfold isComplaint at h
  split at h
  · exact ⟨rfl, rfl⟩
  · cases h

/-- A problem with a condition is no complaint about a judge. -/
theorem isComplaint_of_condition? (kinds : String → Bool) {problem : Condition.Problem}
    {c : Condition} (h : problem.condition? = some c) :
    (Notice.problem problem).isComplaint kinds = false := by
  cases problem with
  | judgeFailed kind message => cases h
  | _ => rfl

end Audience.Notice

open Audience (Notice)

/-! ### Panels -/

/-- Judges of further kinds who may remember what has been asked and answered. -/
structure Panel where
  judges : List (Condition × Truth) → List (String × Judge)

namespace Panel

/-- What has been said in a session, and what has been asked and answered. -/
abbrev Minutes := List Notice × List (Condition × Truth)

/-- The panel of judges who remember nothing. -/
def lasting (judges : List (String × Judge)) : Panel := ⟨fun _ => judges⟩

/-- The panel whose judges of some kinds leave open what they fail at. -/
def calmed (p : Panel) (kinds : String → Bool) : Panel where
  judges past := (p.judges past).map fun entry =>
    (entry.1, if kinds entry.1 then entry.2.calm else entry.2)

variable (p : Panel)

/-- The judges as they are after some questions. -/
def evaluator (past : List (Condition × Truth)) : Evaluator := .ofList (p.judges past)

/-- The answer for a condition by the judges as they are now. It goes into the minutes. -/
def ask (user : User) (c : Condition) : StateM Minutes Truth := fun minutes =>
  Tree.askNoted ((p.evaluator minutes.2).askCondition user) c minutes

/-- The answer for an audience given by its id. -/
def askAudience (catalogue : Catalogue) (user : User) : String → StateM Minutes Truth :=
  Evaluator.askAudienceBy Evaluator.sayBeside (p.ask user) catalogue

/-- Whether a user belongs to the targeted audiences. -/
def evaluate (targeting : Option (Tree String)) (catalogue : Catalogue) (user : User) :
    StateM Minutes Bool :=
  Evaluator.evaluateBy Evaluator.sayBeside (p.ask user) catalogue targeting

section

variable (kinds : String → Bool) (user : User)

/-- The complaint about a question, if it is put to a judge of some kinds who fails. -/
def complaint? (past : List (Condition × Truth)) (c : Condition) : Option Notice :=
  match Condition.Kind.ofText c.kind with
  | .other kind =>
    if kinds kind then
      ((p.judges past).lookup kind).bind fun judge =>
        (judge c user).failure?.map fun message => .problem (.judgeFailed kind message)
    else none
  | _ => none

/-- The complaints that belong to answered questions, one for each failure, when others have been
answered before. -/
def complaints (past : List (Condition × Truth)) : List (Condition × Truth) → List Notice
  | [] => []
  | answered :: later =>
    (p.complaint? kinds user past answered.1).toList ++ complaints (past ++ [answered]) later

theorem complaints_concat (past asked : List (Condition × Truth)) (last : Condition × Truth) :
    p.complaints kinds user past (asked ++ [last]) =
      p.complaints kinds user past asked ++
        (p.complaint? kinds user (past ++ asked) last.1).toList := by
  induction asked generalizing past with
  | nil => simp [complaints]
  | cons first asked ih => simp [complaints, ih]

/-- The minutes of two sessions that differ by complaints only. Since the sessions began, with some
notices and answered questions each, the same has been asked and answered in both. What was said in the
second is what was said in the first but for the complaints, and these are one for each failure. -/
def Quieter (log log' : List Notice) (past : List (Condition × Truth)) (s t : Minutes) : Prop :=
  ∃ said asked, s = (log ++ said, past ++ asked) ∧
    t = (log' ++ said.filter (!·.isComplaint kinds), past ++ asked) ∧
    said.filter (·.isComplaint kinds) = p.complaints kinds user past asked

end

/-! ### Questions to a panel -/

section

variable {p} {kinds : String → Bool} {user : User} {log log' : List Notice}
  {past : List (Condition × Truth)}

theorem ask_eq (c : Condition) : p.ask user c (log, past) =
    ((p.evaluator past).answer user c, log ++ (p.evaluator past).notices user c,
      past ++ [(c, (p.evaluator past).answer user c)]) := by
  rw [ask, Tree.askNoted, Evaluator.askCondition_eq]

theorem lookup_calmed (kind : String) : ((p.calmed kinds).judges past).lookup kind =
    ((p.judges past).lookup kind).map fun judge => if kinds kind then judge.calm else judge := by
  simp only [calmed]
  induction p.judges past with
  | nil => rfl
  | cons entry entries ih =>
    rw [List.map_cons, List.lookup_cons, List.lookup_cons]
    split
    · next same =>
      rw [← beq_iff_eq.mp same]
      rfl
    · exact ih

variable (p kinds user past) in
/-- A question to a panel and to the calmed panel. Either a judge of one of the kinds fails, which is
complained about and leaves the condition open, or the judgements are the same and there is nothing to
complain about. -/
theorem judge_calmed (c : Condition) :
    (∃ kind message, kinds kind = true ∧
      p.complaint? kinds user past c = some (.problem (.judgeFailed kind message)) ∧
      (p.evaluator past).judge user c = .error (.judgeFailed kind message) ∧
      ((p.calmed kinds).evaluator past).judge user c = .ok .unknown) ∨
    (p.complaint? kinds user past c = none ∧
      ((p.calmed kinds).evaluator past).judge user c = (p.evaluator past).judge user c ∧
      ∀ problem, (p.evaluator past).judge user c = .error problem →
        (Notice.problem problem).isComplaint kinds = false) := by
  cases routed : Condition.Kind.ofText c.kind with
  | userAttribute =>
    refine .inr ⟨by simp only [complaint?, routed], by simp only [Evaluator.judge, routed], ?_⟩
    intro problem failed
    simp only [Evaluator.judge, routed] at failed
    exact Notice.isComplaint_of_condition? kinds
      ((c.about_judgeAttribute user).map Truth.ofBool problem failed)
  | userSegment =>
    refine .inr ⟨by simp only [complaint?, routed], by simp only [Evaluator.judge, routed], ?_⟩
    intro problem failed
    simp only [Evaluator.judge, routed] at failed
    exact Notice.isComplaint_of_condition? kinds
      ((c.about_judgeSegment user).map Truth.ofBool problem failed)
  | other kind =>
    -- Only here a judge is heard, and calming the panel keeps its judges under their kinds.
    have admitted := Evaluator.lookup_ofList routed (p.judges past)
    have admitted' := Evaluator.lookup_ofList routed ((p.calmed kinds).judges past)
    rw [lookup_calmed] at admitted'
    simp only [complaint?, Evaluator.judge, routed, evaluator, admitted, admitted']
    cases (p.judges past).lookup kind with
    | none =>
      refine .inr ⟨by simp, rfl, ?_⟩
      rintro problem ⟨⟩
      rfl
    | some judge =>
      cases chosen : kinds kind with
      | false =>
        refine .inr ⟨rfl, rfl, ?_⟩
        intro problem failed
        obtain ⟨message, rfl⟩ := Evaluator.exists_of_heard failed
        exact chosen
      | true =>
        rcases Evaluator.heard_calm kind (judge c user) with
          ⟨message, failure, heard, calm⟩ | ⟨failure, calm, answer, heard⟩
        · exact .inl ⟨kind, message, chosen, by simp [failure], heard, calm⟩
        · refine .inr ⟨by simp [failure], by simp [Judge.calm, calm], ?_⟩
          intro problem failed
          cases heard.symm.trans failed

theorem answer_calmed (c : Condition) :
    ((p.calmed kinds).evaluator past).answer user c = (p.evaluator past).answer user c := by
  rcases p.judge_calmed kinds user past c with
    ⟨kind, message, -, -, failed, calm⟩ | ⟨-, same, -⟩
  · rw [Evaluator.answer, Evaluator.answer, failed, calm]
  · rw [Evaluator.answer, Evaluator.answer, same]

theorem notices_calmed (c : Condition) :
    ((p.calmed kinds).evaluator past).notices user c =
      ((p.evaluator past).notices user c).filter (!·.isComplaint kinds) := by
  rcases p.judge_calmed kinds user past c with
    ⟨kind, message, chosen, -, failed, calm⟩ | ⟨-, same, harmless⟩
  · rw [Evaluator.notices, Evaluator.notices, failed, calm]
    simp [Notice.isComplaint, chosen]
  · rw [Evaluator.notices, Evaluator.notices, same]
    cases judged : (p.evaluator past).judge user c with
    | ok answer => rfl
    | error problem => simp [harmless problem judged]

theorem filter_notices (c : Condition) :
    ((p.evaluator past).notices user c).filter (·.isComplaint kinds) =
      (p.complaint? kinds user past c).toList := by
  rcases p.judge_calmed kinds user past c with
    ⟨kind, message, chosen, complaint, failed, -⟩ | ⟨quiet, -, harmless⟩
  · rw [Evaluator.notices, failed, complaint]
    simp [Notice.isComplaint, chosen]
  · rw [Evaluator.notices, quiet]
    cases judged : (p.evaluator past).judge user c with
    | ok answer => rfl
    | error problem => simp [harmless problem judged]

theorem lockstep_say {notice : Notice} (routine : ∀ problem, notice ≠ .problem problem) :
    Lockstep (p.Quieter kinds user log log' past) (Evaluator.sayBeside notice)
      (Evaluator.sayBeside notice) := by
  rintro s t ⟨said, asked, rfl, rfl, complained⟩
  have harmless : notice.isComplaint kinds = false := by
    cases notice with
    | problem problem => exact absurd rfl (routine problem)
    | _ => rfl
  refine ⟨rfl, said ++ [notice], asked, ?_, ?_, by simp [complained, harmless]⟩
  · rw [← List.append_assoc]
    rfl
  · rw [List.filter_append, List.filter_cons_of_pos (by simp [harmless]), ← List.append_assoc]
    rfl

/-- A question to a panel and to the calmed panel has the same answer, and only a complaint makes a
difference. -/
theorem lockstep_ask (c : Condition) :
    Lockstep (p.Quieter kinds user log log' past) (p.ask user c) ((p.calmed kinds).ask user c) := by
  rintro s t ⟨said, asked, rfl, rfl, complained⟩
  -- The same has been answered so far, so the judges of both panels remember the same.
  let e := p.evaluator (past ++ asked)
  rw [ask_eq, ask_eq, answer_calmed, notices_calmed]
  refine ⟨rfl, said ++ e.notices user c, asked ++ [(c, e.answer user c)], ?_, ?_, ?_⟩
  · rw [List.append_assoc, List.append_assoc]
  · rw [List.append_assoc, List.append_assoc, List.filter_append]
  · rw [List.filter_append, complained, filter_notices, complaints_concat]

theorem Quieter.refl (past : List (Condition × Truth)) :
    p.Quieter kinds user log log' past (log, past) (log', past) :=
  ⟨[], [], by simp, by simp, rfl⟩

end

/-! ### Sessions -/

section

variable (p : Panel) (kinds : String → Bool) (targeting : Option (Tree String)) (catalogue : Catalogue)
  (user : User) (log log' : List Notice) (past : List (Condition × Truth))

theorem lockstep_evaluate : Lockstep (p.Quieter kinds user log log' past)
    (p.evaluate targeting catalogue user) ((p.calmed kinds).evaluate targeting catalogue user) :=
  Lockstep.evaluateBy_of_told catalogue (fun _ => lockstep_say) lockstep_ask targeting

theorem lockstep_askAudience (id : String) : Lockstep (p.Quieter kinds user log log' past)
    (p.askAudience catalogue user id) ((p.calmed kinds).askAudience catalogue user id) :=
  Lockstep.askAudienceBy_of_told catalogue (fun _ => lockstep_say) lockstep_ask id

end

end Panel

end Targeting
