/-!
# Integration with the platform

A project may be integrated with the customer data platform or not; if it is, the configuration says
where the platform is found, and which segments the project asks about.

## Main definitions

* `Config` — how to reach the platform
* `Integration` — whether a project is integrated, and how
* `Sender`, `Device` — what is known about the sender of events
-/

namespace Targeting.Platform

/-- How to reach the platform, and the segments that users are asked for. -/
structure Config where
  apiKey : String
  host : String
  pixelUrl : String
  segments : List String
  deriving DecidableEq

/-- Whether a project is integrated with the platform. -/
inductive Integration where
  | notIntegrated
  | integrated (config : Config)
  deriving DecidableEq

namespace Integration

/-- The configuration of an integrated project. -/
def config? : Integration → Option Config
  | notIntegrated => none
  | integrated config => some config

/-- Whether the project is integrated. -/
def isIntegrated (i : Integration) : Bool := i.config?.isSome

end Integration

/-- The program that sends events. -/
structure Sender where
  name : String := "rust-sdk"
  version : String := "0.1.0"
  deriving DecidableEq

/-- The device that events come from, as far as it is known. -/
structure Device where
  os : Option String := none
  osVersion : Option String := none
  kind : Option String := none
  model : Option String := none
  deriving DecidableEq

end Targeting.Platform
