import Targeting.Platform.SegmentQuery

/-!
# What comes of asking for segments

The platform may not be reached, it may respond with any status, and the body of its response may be any
text. Segments come of it exactly if the body is an answer about a customer in which no error is reported,
and then these are the segments for which the customer is said to be qualified. Where nothing comes of it
there is exactly one complaint, and where something does there is none.

The status has no part in this. So a response that reports a failure by its status alone, with a body that
is an answer, passes for a success.

## Main definitions

* `SegmentQuery.Answers` — the bodies that are answers, and the segments in them
* `SegmentQuery.complaints` — the records that are warnings or errors
* `SegmentQuery.IsReliable` — segments come of successful responses only

## Main results

* `SegmentQuery.fetch_eq_some_iff`, `SegmentQuery.length_complaints_fetch` — what comes of asking, and how
  much is complained about
* `SegmentQuery.isReliable_iff` — when an error status does not pass for a success
-/

namespace Targeting.Platform.SegmentQuery

/-- A body is an answer about a customer without any error, and these are the segments for which the
customer is qualified, in their order. -/
def Answers (body : String) (names : List String) : Prop :=
  ∃ answer standings, SegmentAnswer.ofText? body = some answer ∧ answer.errors = [] ∧
    answer.customer = some standings ∧
    names = (standings.filter fun s => s.standing == "qualified").map fun s => s.name

/-- The records of some notices that are warnings or errors. -/
def complaints (said : List Notice) : List Log.Record :=
  (said.map Notice.record).filter fun record => record.level = .warn || record.level = .error

/-- Segments come of successful responses only: of those whose body is an answer, and then just the
segments in it. -/
def IsReliable (q : SegmentQuery) (send : Request → Except Failure Response) : Prop :=
  ∀ names, (q.fetch send).1 = some names ↔
    ∃ response, send q.request = .ok response ∧ response.isSuccess = true ∧
      Answers response.body names

variable {q : SegmentQuery} {send : Request → Except Failure Response} {response : Response}
  {body : String} {names : List String} {notice : Notice}

/-! ### Bodies -/

theorem readAnswer_eq_ok_iff : readAnswer body = .ok names ↔ Answers body names := by
  unfold readAnswer Answers
  cases SegmentAnswer.ofText? body with
  | none => simp
  | some answer =>
    obtain ⟨customer, errors⟩ := answer
    cases errors with
    | cons e errors => simp
    | nil =>
      cases customer with
      | none => simp
      | some standings =>
        simp only [Except.ok.injEq, Option.some.injEq]
        constructor
        · rintro rfl
          exact ⟨_, standings, rfl, rfl, rfl, rfl⟩
        · rintro ⟨_, _, rfl, -, same, rfl⟩
          obtain rfl := Option.some.inj same
          rfl

/-- An error that the platform reports is a warning if it is about the identifier, and an error if not. -/
theorem level_errorNotice (e : SegmentError) :
    (errorNotice e).record.level = .warn ∨ (errorNotice e).record.level = .error := by
  unfold errorNotice
  split
  · exact .inl rfl
  · exact .inr rfl

/-- What is wrong with a body is a complaint. -/
theorem level_of_readAnswer (h : readAnswer body = .error notice) :
    notice.record.level = .warn ∨ notice.record.level = .error := by
  unfold readAnswer at h
  split at h
  · obtain rfl := Except.error.inj h
    exact .inr rfl
  · split at h
    · obtain rfl := Except.error.inj h
      exact level_errorNotice _
    · obtain rfl := Except.error.inj h
      exact .inr rfl
    · cases h

theorem length_complaints_of_level
    (level : notice.record.level = .warn ∨ notice.record.level = .error) :
    (complaints [notice]).length = 1 := by
  rcases level with level | level <;> simp [complaints, level]

/-! ### Responses -/

/-- The segments depend on the body only; a status other than success is noted before all else. -/
theorem receive_ok (response : Response) : receive (.ok response)
    = ((receiveBody response.body).1,
        (if response.isSuccess then [] else [Notice.errorStatus (.ofStatus response.status)])
          ++ (receiveBody response.body).2) := by
  cases success : response.isSuccess <;> simp [receive, success]

theorem receiveBody_fst (body : String) : (receiveBody body).1 = (readAnswer body).toOption := by
  unfold receiveBody
  cases readAnswer body <;> rfl

/-- A status other than success is no complaint. -/
theorem complaints_receive_ok (response : Response) :
    complaints (receive (.ok response)).2 = complaints (receiveBody response.body).2 := by
  rw [receive_ok]
  cases response.isSuccess <;> rfl

/-- Of a response there come either segments or a complaint. -/
theorem length_complaints_receive (outcome : Except Failure Response) :
    (complaints (receive outcome).2).length = if (receive outcome).1.isSome then 0 else 1 := by
  cases outcome with
  | error failure => rfl
  | ok response =>
    rw [complaints_receive_ok, receive_ok, receiveBody]
    cases read : readAnswer response.body with
    | ok names => rfl
    | error notice => exact length_complaints_of_level (level_of_readAnswer read)

/-- Segments come of a response exactly if its body is an answer with them. -/
theorem receive_fst_eq_some_iff {outcome : Except Failure Response} :
    (receive outcome).1 = some names ↔
      ∃ response, outcome = .ok response ∧ Answers response.body names := by
  cases outcome with
  | error failure => simp [receive]
  | ok response =>
    have answered : (readAnswer response.body).toOption = some names ↔ Answers response.body names := by
      rw [← readAnswer_eq_ok_iff]
      cases readAnswer response.body <;> simp [Except.toOption]
    rw [receive_ok, receiveBody_fst, answered]
    simp

/-! ### Questions -/

theorem fetch_of_asking (asks : q.segments ≠ []) (send : Request → Except Failure Response) :
    q.fetch send = receive (send q.request) := by
  simp [fetch, isTrivial, asks]

section Asking

variable (asks : q.segments ≠ [])
include asks

/-- Segments come of asking exactly if the body of the response is an answer with them. -/
theorem fetch_eq_some_iff : (q.fetch send).1 = some names ↔
    ∃ response, send q.request = .ok response ∧ Answers response.body names := by
  rw [fetch_of_asking asks, receive_fst_eq_some_iff]

theorem length_complaints_fetch :
    (complaints (q.fetch send).2).length = if (q.fetch send).1.isSome then 0 else 1 := by
  rw [fetch_of_asking asks]
  exact length_complaints_receive _

/-- Let there be something to ask for. Segments come of a response exactly if its body is an answer, and
then they are those in the answer for which the customer is qualified. Where none come there is exactly one
warning or error, and where they do there is none. And segments come of successful responses only, if and
only if no response with another status has an answer as its body. -/
theorem isReliable_iff :
    (∀ names, (q.fetch send).1 = some names ↔
      ∃ response, send q.request = .ok response ∧ Answers response.body names) ∧
    ((complaints (q.fetch send).2).length = if (q.fetch send).1.isSome then 0 else 1) ∧
    (IsReliable q send ↔ ∀ response names, send q.request = .ok response →
      Answers response.body names → response.isSuccess = true) := by
  refine ⟨fun names => fetch_eq_some_iff asks, length_complaints_fetch asks, ?_⟩
  constructor
  · intro reliable response names sent answers
    have came : (q.fetch send).1 = some names := (fetch_eq_some_iff asks).mpr ⟨response, sent, answers⟩
    obtain ⟨other, again, success, -⟩ := (reliable names).mp came
    obtain rfl := Except.ok.inj (sent.symm.trans again)
    exact success
  · -- An answer comes with success alone, so that asking for success as well changes nothing.
    intro faultless names
    rw [fetch_eq_some_iff asks]
    constructor
    · rintro ⟨response, sent, answers⟩
      exact ⟨response, sent, faultless response names sent answers, answers⟩
    · rintro ⟨response, sent, -, answers⟩
      exact ⟨response, sent, answers⟩

end Asking

/-- A question for one segment. -/
def forGold : SegmentQuery where
  apiKey := "key"
  host := "https://api.zaius.com"
  userKey := "vuid"
  userValue := "u"
  segments := ["gold"]

/-- An answer about a customer who is qualified for one of two segments. -/
def goldAnswer : String :=
  "\x7b\"data\":\x7b\"customer\":\x7b\"audiences\":\x7b\"edges\":[" ++
    "\x7b\"node\":\x7b\"name\":\"gold\",\"state\":\"qualified\"\x7d\x7d," ++
    "\x7b\"node\":\x7b\"name\":\"iron\",\"state\":\"lost\"\x7d\x7d]\x7d\x7d\x7d\x7d"

theorem answers_goldAnswer : Answers goldAnswer ["gold"] := by
  have read : SegmentAnswer.ofText? goldAnswer
      = some ⟨some [⟨"gold", "qualified"⟩, ⟨"iron", "lost"⟩], []⟩ := by
    decide +kernel
  exact ⟨_, _, read, rfl, rfl, by decide⟩

/-- A successful response with this answer. -/
theorem isReliable_gold : IsReliable forGold fun _ => .ok { status := 200, body := goldAnswer } := by
  refine (isReliable_iff (by decide)).2.2.mpr ?_
  rintro response names sent -
  obtain rfl := Except.ok.inj sent
  rfl

/-- The same answer with the status of a failure. -/
theorem not_isReliable_of_errorStatus :
    ¬ ∀ (q : SegmentQuery) (send : Request → Except Failure Response), q.segments ≠ [] →
      IsReliable q send := by
  intro claim
  have reliable := claim forGold (fun _ => .ok { status := 404, body := goldAnswer }) (by decide)
  have came : (forGold.fetch fun _ => .ok { status := 404, body := goldAnswer }).1 = some ["gold"] :=
    (fetch_eq_some_iff (by decide)).mpr ⟨_, rfl, answers_goldAnswer⟩
  obtain ⟨response, sent, success, -⟩ := (reliable ["gold"]).mp came
  obtain rfl := Except.ok.inj sent
  exact absurd success (by decide)

end Targeting.Platform.SegmentQuery
