import Targeting.Audience.Notice
import Targeting.Condition.Attribute
import Targeting.Condition.Segment

/-!
# Judging audiences

Conditions on attributes and on segments are judged by fixed rules. Other kinds of conditions may be
given judges of their own, which are not trusted: one that fails leaves its condition open. Every
question adds what it has to say to a list of notices.

A judge who fails leaves something behind, an error or what it crashed with. Its text goes into a notice, and
it is thrown away. Both run code of the judge once more, and a crash in there is caught by nobody: the call
breaks off before anything is said about the failure.

## Main definitions

* `Condition.Kind` — the kinds of conditions
* `Judge`, `Verdict` — judges of further kinds, and what may become of asking one
* `Evaluator`, `Evaluator.ofList` — the judges of further kinds, and how they are admitted
* `Evaluator.askCondition`, `Evaluator.askAudience`, `Evaluator.evaluate` — the answer for a
  condition, for an audience and for a targeting
* `Evaluator.askAudienceBy`, `Evaluator.evaluateBy` — the last two for any way to ask for conditions
  and to take notices
* `Evaluator.callCondition`, `Evaluator.callAudience`, `Evaluator.call` — the same as calls, which may
  break off
-/

namespace Targeting

namespace Condition

/-- The kinds of conditions. -/
inductive Kind where
  | userAttribute
  | userSegment
  | other (name : String)
  deriving DecidableEq

namespace Kind

/-- The kind that a word names. -/
def ofText (name : String) : Kind :=
  if name = "custom_attribute" then userAttribute
  else if name = "third_party_dimension" then userSegment
  else other name

/-- The word for a kind. -/
def text : Kind → String
  | userAttribute => "custom_attribute"
  | userSegment => "third_party_dimension"
  | other name => name

/-- Whether a kind is judged by fixed rules. -/
def isBuiltIn : Kind → Bool
  | other _ => false
  | _ => true

@[simp] theorem text_ofText (name : String) : (ofText name).text = name := by
  unfold ofText
  split
  · rename_i h
    exact h.symm
  · split
    · rename_i h
      exact h.symm
    · rfl

end Kind

end Condition

/-- What a crash leaves behind. -/
inductive Wreck where
  | text (s : String)
  /-- No text, but it can be thrown away. -/
  | other
  /-- No text, and throwing it away is a crash that leaves the next one behind. -/
  | fragile (next : Wreck)

/-- The words for what a crash left behind. -/
def Wreck.message : Wreck → String
  | text s => s
  | _ => "evaluator panicked"

/-- What may become of asking a judge. The error of a judge who fails may crash when its message is written
or when it is thrown away. -/
inductive Verdict where
  | answer (t : Truth)
  | failed (message : String) (burst : Option Wreck := none)
  | crashed (wreck : Wreck)

/-- What the crash leaves behind that comes of clearing up after a judge. -/
def Verdict.burst? : Verdict → Option Wreck
  | answer _ => none
  | failed _ burst => burst
  | crashed (.fragile next) => some next
  | crashed _ => none

/-- Someone who judges conditions of a further kind. -/
abbrev Judge := Condition → User → Verdict

/-- Those who judge conditions of further kinds. -/
structure Evaluator where
  judges : List (String × Judge) := []

namespace Evaluator

open Audience (Notice)

/-- Whether a judge is for a kind that is judged by fixed rules. -/
def isIgnored (judge : String × Judge) : Bool := (Condition.Kind.ofText judge.1).isBuiltIn

/-- The evaluator with the given judges; those for kinds that have fixed rules are ignored. -/
def ofList (judges : List (String × Judge)) : Evaluator :=
  ⟨judges.filter (!isIgnored ·)⟩

/-- What is said about the judges that are ignored. -/
def ignored (judges : List (String × Judge)) : List Notice :=
  (judges.filter isIgnored).map (.ignoredJudge ·.1)

/-- Adds a notice. -/
def say (notice : Notice) : StateM (List Notice) Unit := modify (· ++ [notice])

/-- The answer that remains of a judgement: a problem is reported and leaves the condition open. -/
def settle (judgement : Except Condition.Problem Truth) : StateM (List Notice) Truth :=
  match judgement with
  | .ok answer => pure answer
  | .error problem => do
    say (.problem problem)
    return .unknown

/-- The judgement of someone who is not trusted, when clearing up after it goes well. -/
def heard (kind : String) : Verdict → Except Condition.Problem Truth
  | .answer t => .ok t
  | .failed message _ => .error (.judgeFailed kind message)
  | .crashed wreck => .error (.judgeFailed kind wreck.message)

/-- The judgement of a condition. -/
def judge (e : Evaluator) (user : User) (c : Condition) : Except Condition.Problem Truth :=
  match Condition.Kind.ofText c.kind with
  | .userAttribute => (c.judgeAttribute user).map .ofBool
  | .userSegment => (c.judgeSegment user).map .ofBool
  | .other kind =>
    match e.judges.lookup kind with
    | some judge => heard kind (judge c user)
    | none => .error (.unknownKind c)

/-- The answer for a condition, when clearing up goes well. -/
def askCondition (e : Evaluator) (user : User) (c : Condition) : StateM (List Notice) Truth :=
  settle (e.judge user c)

/-- What the crash leaves behind that comes of clearing up after the judge of a condition. -/
def burst? (e : Evaluator) (user : User) (c : Condition) : Option Wreck :=
  match Condition.Kind.ofText c.kind with
  | .other kind => (e.judges.lookup kind).bind fun judge => (judge c user).burst?
  | _ => none

section Way

variable {m : Type → Type} [Monad m] (say : Notice → m Unit) (ask : Condition → m Truth)
  (catalogue : Catalogue)

/-- The answer for an audience given by its id, whatever becomes of the notices and whoever is asked
for the conditions. -/
def askAudienceBy (id : String) : m Truth :=
  match catalogue id with
  | none => do
    say (.notFound id)
    return .unknown
  | some audience => do
    say (.started id audience)
    let answer ← audience.conditions.evaluate ask
    say (.judged id answer)
    return answer

/-- Whether the targeted audiences are answered with yes. Without a targeting they are; an open
answer counts as no. -/
def evaluateBy (targeting : Option (Tree String)) : m Bool :=
  match targeting with
  | none => pure true
  | some targeting => do
    let answer ← targeting.evaluate (askAudienceBy say ask catalogue)
    return answer.holds

end Way

/-- The answer for an audience given by its id, when clearing up goes well. -/
def askAudience (e : Evaluator) (catalogue : Catalogue) (user : User) :
    String → StateM (List Notice) Truth :=
  askAudienceBy say (e.askCondition user) catalogue

/-- Whether a user belongs to the targeted audiences, when clearing up goes well. -/
def evaluate (e : Evaluator) (targeting : Option (Tree String)) (catalogue : Catalogue)
    (user : User) : StateM (List Notice) Bool :=
  evaluateBy say (e.askCondition user) catalogue targeting

/-- Computations that may break off by a crash. The state stays as it was at this point. -/
abbrev Attempt (σ : Type) := ExceptT Wreck (StateM σ)

/-- Adds a notice in the course of a call. -/
def sayInCall (notice : Notice) : Attempt (List Notice) Unit := ExceptT.lift (say notice)

/-- The call for a condition. A crash in clearing up after a judge comes before the complaint about it. -/
def callCondition (e : Evaluator) (user : User) (c : Condition) : Attempt (List Notice) Truth :=
  match e.burst? user c with
  | some wreck => throw wreck
  | none => ExceptT.lift (e.askCondition user c)

/-- The call for an audience given by its id. -/
def callAudience (e : Evaluator) (catalogue : Catalogue) (user : User) :
    String → Attempt (List Notice) Truth :=
  askAudienceBy sayInCall (e.callCondition user) catalogue

/-- The call that tells whether a user belongs to the targeted audiences. -/
def call (e : Evaluator) (targeting : Option (Tree String)) (catalogue : Catalogue) (user : User) :
    Attempt (List Notice) Bool :=
  evaluateBy sayInCall (e.callCondition user) catalogue targeting

end Evaluator

end Targeting
