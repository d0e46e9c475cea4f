/-!
# Log records

What a component has to say is a notice of its own type; a record is the form in which every notice
is written down.

## Main definitions

* `Log.Level`, `Log.Record` — levels and records
-/

namespace Targeting.Log

/-- How pressing a record is. -/
inductive Level where
  | error
  | warn
  | info
  | debug
  deriving DecidableEq

/-- The word for a level. -/
def Level.text : Level → String
  | error => "ERROR"
  | warn => "WARN"
  | info => "INFO"
  | debug => "DEBUG"

/-- A line of a log, with named values beside the message. -/
structure Record where
  level : Level
  message : String
  fields : List (String × String)
  deriving DecidableEq

end Targeting.Log
