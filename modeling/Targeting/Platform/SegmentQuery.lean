import Targeting.Json.Printer
import Targeting.Json.Record
import Targeting.Log
import Targeting.Platform.Failure
import Targeting.Platform.Http

/-!
# Asking for segments

The platform is asked which of some segments a user qualifies for. The question is a text with the
user's identifier and the segments as quoted texts in it, so that no identifier and no segment can
change what is asked. The answer is a record with either errors or the user's segments.

## Main definitions

* `SegmentQuery`, `SegmentQuery.question`, `SegmentQuery.request` — questions and their requests
* `SegmentAnswer`, `SegmentAnswer.ofRaw?` — answers
* `SegmentQuery.Notice`, `SegmentQuery.receive` — what comes of a response
* `SegmentQuery.fetch` — a question from its request to what comes of the response
-/

namespace Targeting.Platform

/-- Which segments are asked for, about whom, and with which key. -/
structure SegmentQuery where
  apiKey : String
  host : String
  userKey : String
  userValue : String
  segments : List String
  deriving DecidableEq

namespace SegmentQuery

/-! ### Questions -/

/-- The characters of a question. -/
def question (q : SegmentQuery) : List Char :=
  "query \x7bcustomer(".toList ++ q.userKey.toList ++ " : ".toList ++ Json.quote q.userValue
    ++ ") \x7baudiences(subset: ".toList ++ (Json.texts q.segments).write
    ++ ") \x7bedges \x7bnode \x7bname state\x7d\x7d\x7d\x7d\x7d".toList

/-- The body of the request for a question. -/
def body (q : SegmentQuery) : String :=
  (Json.obj [("query", .str (.ofList q.question))]).text

/-- The request for a question. -/
def request (q : SegmentQuery) : Request :=
  ((Request.post (q.host ++ "/v3/graphql") q.body).withHeader
    "content-type" "application/json").withHeader "x-api-key" q.apiKey

end SegmentQuery

/-! ### Answers -/

/-- A segment, and how the user stands to it. -/
structure SegmentStanding where
  name : String
  standing : String
  deriving DecidableEq

/-- Why the platform did not answer. -/
structure SegmentError where
  message : String
  code : Option String
  classification : Option String
  deriving DecidableEq

/-- What the platform has answered: errors, and the segments of the customer if there is one. -/
structure SegmentAnswer where
  customer : Option (List SegmentStanding)
  errors : List SegmentError
  deriving DecidableEq

namespace SegmentStanding

/-- The pair of a segment's name and its standing. -/
def ofNode? (v : Raw) : Option SegmentStanding := do
  let fields ← v.record? ["name", "state"]
  let name ← (fields "name").required Raw.text?
  let standing ← (fields "state").required Raw.text?
  return { name, standing }

/-- The segment at an edge. -/
def ofEdge? (v : Raw) : Option SegmentStanding := do
  let fields ← v.record? ["node"]
  (fields "node").required ofNode?

/-- Whether the user qualifies for the segment. -/
def isQualified (s : SegmentStanding) : Bool := s.standing == "qualified"

end SegmentStanding

namespace SegmentError

/-- The code and the classification of an error. -/
def details? (v : Raw) : Option (Option String × Option String) := do
  let fields ← v.record? ["code", "classification"]
  let code ← (fields "code").optional (Raw.nullable Raw.text?)
  let classification ← (fields "classification").optional (Raw.nullable Raw.text?)
  return (code, classification)

/-- The error that a raw value is. -/
def ofRaw? (v : Raw) : Option SegmentError := do
  let fields ← v.record? ["message", "extensions"]
  let message ← (fields "message").orElse Raw.text? ""
  let details ← (fields "extensions").orElse (Raw.nullable details?) none
  return { message, code := details.bind (·.1), classification := details.bind (·.2) }

end SegmentError

namespace SegmentAnswer

/-- The segments at the edges of audiences. -/
def audiences? (v : Raw) : Option (List SegmentStanding) := do
  let fields ← v.record? ["edges"]
  (fields "edges").required (Raw.list? SegmentStanding.ofEdge?)

/-- The segments of a customer. -/
def customer? (v : Raw) : Option (List SegmentStanding) := do
  let fields ← v.record? ["audiences"]
  (fields "audiences").required audiences?

/-- The customer in the data, if there is one. -/
def data? (v : Raw) : Option (Option (List SegmentStanding)) := do
  let fields ← v.record? ["customer"]
  (fields "customer").optional (Raw.nullable customer?)

/-- The answer that a raw value is. -/
def ofRaw? (v : Raw) : Option SegmentAnswer := do
  let fields ← v.record? ["data", "errors"]
  let data ← (fields "data").optional (Raw.nullable data?)
  let errors ← (fields "errors").orElse (Raw.list? SegmentError.ofRaw?) []
  return { customer := data.join, errors }

/-- The answer that a text is. -/
def ofText? (body : String) : Option SegmentAnswer := do
  let raw ← Raw.read? body
  ofRaw? raw

end SegmentAnswer

namespace SegmentQuery

/-! ### What comes of a response -/

/-- What is said about a question. -/
inductive Notice where
  /-- The platform could not be reached. -/
  | unreachable (failure : Failure)
  /-- The platform has answered with a code other than success. -/
  | errorStatus (failure : Failure)
  /-- The answer cannot be read. -/
  | unreadable
  /-- The platform does not know the user's identifier. -/
  | invalidIdentifier (message : String)
  /-- The platform reports another error. -/
  | rejected (classification message : String)
  /-- The answer is about no customer. -/
  | noCustomer

/-- What failures without a classification are called. -/
def unclassified : String := "decode error"

/-- The message that fetching has failed. -/
def failedMessage (reason : String) : String :=
  "audience segments fetch failed (" ++ reason ++ ")"

/-- The record of a notice. -/
def Notice.record : Notice → Log.Record
  | unreachable failure => ⟨.error, failedMessage "network error", [("err", failure.inspect)]⟩
  | errorStatus failure =>
    ⟨.debug, "segments request returned an error status", [("err", failure.message)]⟩
  | unreadable => ⟨.error, failedMessage unclassified, [("err", "<json error>")]⟩
  | invalidIdentifier message =>
    ⟨.warn, failedMessage "invalid identifier", [("message", message)]⟩
  | rejected classification message =>
    ⟨.error, failedMessage classification, [("message", message)]⟩
  | noCustomer => ⟨.error, failedMessage unclassified, []⟩

/-- The code of the error that the user's identifier is not known. -/
def invalidIdentifierCode : String := "INVALID_IDENTIFIER_EXCEPTION"

/-- The notice about an error that the platform reports. -/
def errorNotice (e : SegmentError) : Notice :=
  if e.code = some invalidIdentifierCode then .invalidIdentifier e.message
  else .rejected (e.classification.getD unclassified) e.message

/-- The segments that an answer qualifies the user for, or why there are none. -/
def readAnswer (body : String) : Except Notice (List String) :=
  match SegmentAnswer.ofText? body with
  | none => .error .unreadable
  | some answer =>
    match answer.errors, answer.customer with
    | e :: _, _ => .error (errorNotice e)
    | [], none => .error .noCustomer
    | [], some standings =>
      .ok ((standings.filter SegmentStanding.isQualified).map SegmentStanding.name)

/-- The segments that come of an answer, and what is said about it. -/
def receiveBody (body : String) : Option (List String) × List Notice :=
  match readAnswer body with
  | .ok names => (some names, [])
  | .error notice => (none, [notice])

/-- The segments that come of a response, and what is said about it. The body counts even if the
status is no success. -/
def receive : Except Failure Response → Option (List String) × List Notice
  | .error failure => (none, [.unreachable failure])
  | .ok response =>
    let (names, said) := receiveBody response.body
    if response.isSuccess then (names, said)
    else (names, .errorStatus (.ofStatus response.status) :: said)

/-- Whether there is nothing to ask for. -/
def isTrivial (q : SegmentQuery) : Bool := q.segments.isEmpty

/-- The segments that are fetched, given what becomes of a request, and what is said about it. Nothing is
requested if there is nothing to ask for. -/
def fetch (q : SegmentQuery) (send : Request → Except Failure Response) :
    Option (List String) × List Notice :=
  if q.isTrivial then (some [], []) else receive (send q.request)

end SegmentQuery

end Targeting.Platform
