import Targeting.Platform.Url.Flaw

/-!
# Failures

## Main definitions

* `Failure` — why something could not be done
* `Failure.message`, `Failure.inspect` — its text for users, and its form for developers
* `Failure.ofStatus` — the failure that a status code stands for
* `Failure.isRetryable` — whether the same may succeed when it is tried again
-/

namespace Targeting.Platform

/-- Why something could not be done. -/
inductive Failure where
  /-- The address of the platform is none. -/
  | invalidUrl (flaw : Url.Flaw)
  /-- The platform does not accept the key. -/
  | unauthorized
  /-- The platform has answered with a code other than success. -/
  | status (code : Nat)
  /-- Several events were given where only one can be sent. -/
  | tooManyEvents (count : Nat)
  /-- There is nothing to run tasks in the background. -/
  | noRuntime
  /-- The service was stopped before it was running. -/
  | stopped
  /-- The service could not be started. -/
  | startFailed
  /-- The platform could not be reached. -/
  | network
  deriving DecidableEq

namespace Failure

/-- The form of a failure for developers. -/
def inspect : Failure → String
  | invalidUrl flaw => "InvalidUrl(" ++ flaw.name ++ ")"
  | unauthorized => "Unauthorized"
  | status code => "HttpStatus(" ++ toString code ++ ")"
  | tooManyEvents count => "TooManyEvents(" ++ toString count ++ ")"
  | noRuntime => "NoRuntime"
  | stopped => "ServiceStopped"
  | startFailed => "ServiceFailed"
  | network => "<network error>"

/-- The text of a failure for users. -/
def message : Failure → String
  | invalidUrl _ => "invalid url"
  | unauthorized => "unauthorized, api_key is likely invalid"
  | status code => "received non-success status code " ++ toString code
  | tooManyEvents count =>
    "pixel api accepts exactly one event per request, got " ++ toString count
  | noRuntime => "no tokio runtime available to run background tasks"
  | stopped => "service was stopped before it started running"
  | startFailed => "service failed to start"
  | network => "<network error>"

/-- The failure that a status code other than success stands for. -/
def ofStatus (code : Nat) : Failure :=
  if code = 401 ∨ code = 403 then unauthorized else status code

/-- Whether the same may succeed when it is tried again: not when the request itself is at fault. -/
def isRetryable : Failure → Bool
  | invalidUrl _ => false
  | tooManyEvents _ => false
  | _ => true

end Failure

end Targeting.Platform
