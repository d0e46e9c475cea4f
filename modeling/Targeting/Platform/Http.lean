/-!
# Requests and responses

## Main definitions

* `Method`, `Request`, `Response` — what is sent and what comes back
* `Request.withHeader` — setting a header
* `Response.isSuccess` — whether a request was successful
-/

namespace Targeting.Platform

/-- What a request does. -/
inductive Method where
  | get
  | post
  deriving DecidableEq

/-- A request. Every header is named once. -/
structure Request where
  method : Method
  url : String
  headers : List (String × String) := []
  body : Option String := none
  deriving DecidableEq

namespace Request

/-- A request to get something. -/
def get (url : String) : Request := { method := .get, url }

/-- A request to post something. -/
def post (url body : String) : Request := { method := .post, url, body := some body }

/-- The request with a header set; an earlier value is replaced. -/
def withHeader (request : Request) (name value : String) : Request :=
  { request with headers := request.headers.filter (·.1 != name) ++ [(name, value)] }

end Request

/-- A response. -/
structure Response where
  status : Nat
  body : String := ""
  deriving DecidableEq

/-- Whether a status code stands for success. -/
def isSuccessStatus (code : Nat) : Bool := 200 ≤ code && code < 300

/-- Whether the request was successful. -/
def Response.isSuccess (response : Response) : Bool := isSuccessStatus response.status

end Targeting.Platform
