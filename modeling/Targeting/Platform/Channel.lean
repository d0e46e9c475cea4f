import Targeting.Log
import Targeting.Platform.Event
import Targeting.Platform.Failure
import Targeting.Platform.Http
import Targeting.Platform.Url.Basic

/-!
# Channels for events

Events reach the platform through one of two channels: a batch is posted as a list, or a single event is
hidden in the address of an image.

## Main definitions

* `Channel`, `Channel.request` — the channels, and the request that carries a batch
* `Channel.pixelPairs` — what the address of an image says about an event
* `Channel.isMisfit` — whether a batch has more or fewer events than the channel carries
-/

namespace Targeting.Platform

/-- A way for events to reach the platform. -/
inductive Channel where
  | rest
  | pixel
  deriving DecidableEq

namespace Channel

/-- The request that carries a batch as a list. -/
def restRequest (config : Config) (events : List Event) : Request :=
  ((Request.post (config.host ++ "/v3/events") (Json.arr (events.map Event.toJson)).text).withHeader
    "content-type" "application/json").withHeader "x-api-key" config.apiKey

/-- The text of an event's datum in the address of an image: a text as it is, and any other value as
it is written. -/
def dataText : Json → String
  | .str s => s
  | v => v.text

/-- What the address of an image says about an event. -/
def pixelPairs (config : Config) (event : Event) : List (String × String) :=
  [("tracker_id", config.apiKey), ("event_type", event.kind), ("vdl_action", event.action)]
    ++ event.identifiers ++ event.data.map fun (name, v) => (name, dataText v)

/-- The address of an image that carries an event. -/
def pixelUrl (config : Config) (event : Event) : Except Url.Flaw Url :=
  (Url.ofText (config.pixelUrl ++ "/v2/zaius.gif")).map (·.withPairs (pixelPairs config event))

/-- The request that carries a batch, if this channel can carry it. -/
def request (channel : Channel) (config : Config) (events : List Event) : Except Failure Request :=
  match channel, events with
  | rest, events => .ok (restRequest config events)
  | pixel, [event] =>
    match pixelUrl config event with
    | .ok url => .ok (.get url.text)
    | .error flaw => .error (.invalidUrl flaw)
  | pixel, events => .error (.tooManyEvents events.length)

/-- Whether a batch has not exactly the one event that this channel can carry. -/
def isMisfit (channel : Channel) (events : List Event) : Bool :=
  channel == pixel && events.length != 1

/-- The record about a number of events that the address of an image cannot carry. -/
def misfitRecord (count : Nat) : Log.Record :=
  ⟨.error, "pixel API can only send one event at a time", [("count", toString count)]⟩

end Channel

end Targeting.Platform
