import Targeting.Json.Printer
import Targeting.Json.Record
import Targeting.Platform.Integration

/-!
# Events

An event tells what a customer did. It says of what type it is, names the action, identifies the
customer by at least one identifier, and may carry data, which are scalars only.

An event is *normalized* before it is kept: a missing type gets the standard one, and other spellings
of the customer's main identifier are replaced by its standard name. Then the data that all events
share are added, unless the event has data of these names.

## Main definitions

* `Event` — events
* `Event.ofJson?`, `Event.toJson`, `Event.same` — reading, writing and equality
* `Event.Fault`, `Event.fault?` — what is wrong with an event
* `Event.normalize`, `Event.complete` — how an event is prepared
-/

namespace Targeting.Platform

/-- Something that a customer did. No two identifiers and no two data have the same name. -/
structure Event where
  kind : String
  action : String
  identifiers : List (String × String)
  data : List (String × Json)

namespace Event

/-! ### Reading and writing -/

/-- The names of the fields, in the order in which they are written. -/
def fieldNames : List String := ["type", "action", "identifiers", "data"]

/-- Named texts. -/
def identifiers? (v : Json) : Option (List (String × String)) := do
  let fields ← v.fields?
  fields.mapM fun (name, v) => v.text?.map (name, ·)

/-- The event that a value is. -/
def ofJson? (v : Json) : Option Event := do
  let fields ← v.record? fieldNames
  let kind ← (fields "type").required Json.text?
  let action ← (fields "action").required Json.text?
  let identifiers ← (fields "identifiers").required identifiers?
  let data ← (fields "data").orElse Json.fields? []
  return { kind, action, identifiers, data }

/-- The value for an event. -/
def toJson (e : Event) : Json :=
  .obj [("type", .str e.kind), ("action", .str e.action),
    ("identifiers", .obj (e.identifiers.map fun (name, s) => (name, .str s))),
    ("data", .obj e.data)]

/-- Whether two lists hold the same values under the same names, in any order. -/
def sameNamed {α : Type} (same : α → α → Bool) (xs ys : List (String × α)) : Bool :=
  xs.length == ys.length && xs.all fun (name, x) => (ys.lookup name).any (same x)

/-- Equality of events; the order of identifiers and data does not matter. -/
def same (e f : Event) : Bool :=
  e.kind == f.kind && e.action == f.action && sameNamed (· == ·) e.identifiers f.identifiers
    && sameNamed Json.same e.data f.data

/-! ### Faults -/

/-- What is wrong with an event. -/
inductive Fault where
  | noIdentifiers
  | emptyAction
  | unfitData (name : String)
  deriving DecidableEq

/-- The text of a fault. -/
def Fault.message : Fault → String
  | noIdentifiers => "ODP event must have at least one identifier"
  | emptyAction => "ODP event must have a non-empty action"
  | unfitData name => "ODP event data must be scalar values; \"" ++ name ++ "\" is not"

/-- The first fault of an event. -/
def fault? (e : Event) : Option Fault :=
  if e.identifiers.isEmpty then some .noIdentifiers
  else if e.action.isEmpty then some .emptyAction
  else (e.data.find? fun (_, v) => !v.isScalar).map fun (name, _) => .unfitData name

/-! ### Preparation -/

/-- The type of events that name none. -/
def standardKind : String := "fullstack"

/-- The name of the customer's main identifier. -/
def userKey : String := "fs_user_id"

/-- The name of the identifier of a visitor who is not known. -/
def visitorKey : String := "vuid"

/-- A text with the letters of ASCII in lower case. -/
def lowered (s : String) : List Char := s.toList.map Char.toLower

/-- Whether a name is another spelling of the main identifier. -/
def isAlias (name : String) : Bool :=
  name != userKey && (lowered name == "fs-user-id".toList || lowered name == userKey.toList)

/-- Adds a value under a name, unless there is one already. -/
def addMissing {α : Type} (name : String) (value : α) (xs : List (String × α)) :
    List (String × α) :=
  if (xs.lookup name).isSome then xs else xs ++ [(name, value)]

/-- Identifiers with the main one under its standard name only. Of several spellings the first one
counts, and the standard one counts before all others. -/
def canonical (identifiers : List (String × String)) : List (String × String) :=
  let others := identifiers.filter (!isAlias ·.1)
  match identifiers.find? (isAlias ·.1) with
  | some (_, value) => addMissing userKey value others
  | none => others

/-- The event with a type and with the standard name of the main identifier. -/
def normalize (e : Event) : Event :=
  { e with
    kind := if e.kind.isEmpty then standardKind else e.kind
    identifiers := canonical e.identifiers }

/-- The name of the data that tells repeated deliveries of one event apart from new events. -/
def idKey : String := "idempotence_id"

/-- The data that all events of a sender share. -/
def commonData (sender : Sender) (device : Option Device) : List (String × Json) :=
  let known (name : String) (value : Option String) : List (String × Json) :=
    value.toList.map fun s => (name, .str s)
  let device := device.getD {}
  [("data_source_type", .str "sdk"), ("data_source", .str sender.name),
    ("data_source_version", .str sender.version)]
    ++ known "os" device.os ++ known "os_version" device.osVersion
    ++ known "device_type" device.kind ++ known "model" device.model

/-- The event with an id and with the data that all events share; the event's own data stay. -/
def complete (common : List (String × Json)) (id : String) (e : Event) : Event :=
  { e with
    data := common.foldl (fun data (name, v) => addMissing name v data)
      (addMissing idKey (.str id) e.data) }

/-! ### Events of the library's own -/

/-- The event that a visitor is a known customer, if either is identified. -/
def identified (userId visitor : Option String) : Option Event :=
  let known (name : String) (value : Option String) := value.toList.map (name, ·)
  match known visitorKey visitor ++ known userKey userId with
  | [] => none
  | identifiers => some { kind := standardKind, action := "identified", identifiers, data := [] }

/-- The event that a visitor uses the program for the first time. -/
def initialized (visitor : String) : Event :=
  { kind := standardKind, action := "client_initialized"
    identifiers := [(visitorKey, visitor)], data := [] }

end Event

end Targeting.Platform
