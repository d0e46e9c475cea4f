import Targeting.Platform.Channel
import Targeting.Proofs.Outbox.Conservation
import Targeting.Proofs.Url.Form

/-!
# What the address of an image says

The address of an image says everything about an event: its query holds the key of the project, the type and
the action, and the identifiers and the data with their texts, each as a name with a value. They all share
one set of names, though. A receiver who keeps one value for each name learns all of it exactly if no name is
used for two different values. An event may well do so: nothing keeps an identifier from having the name of a
datum, or the name under which the key of the project is sent.

## Main definitions

* `Channel.Says` — what the address of an image says
* `Url.Reading` — one value for each name of a query

## Main results

* `Channel.mem_pixelPairs_iff` — the names and values in the query of the address of an image
* `Channel.recovers_iff` — when a reading of the query gives back all that was said
-/

namespace Targeting.Platform

/-! ### Readings -/

/-- A way to read names with values as a table: every name that has a value has one of its values in it, and
no other name has any. -/
structure Url.Reading (said : List (String × String)) where
  value? : String → Option String
  sound : ∀ name value, value? name = some value → (name, value) ∈ said
  complete : ∀ name value, (name, value) ∈ said → (value? name).isSome

namespace Url.Reading

variable {said : List (String × String)}

/-- The table in which the last value of a name counts. -/
def last (said : List (String × String)) : Reading said where
  value? name := said.reverse.lookup name
  sound name value found := by
    obtain ⟨before, after, split, -⟩ := List.lookup_eq_some_iff.mp found
    exact List.mem_reverse.mp (split ▸ List.mem_append_right before List.mem_cons_self)
  complete name value member :=
    List.lookup_isSome_iff.mpr ⟨(name, value), List.mem_reverse.mpr member, beq_self_eq_true name⟩

/-- A table holds all values exactly if no name has two of them. -/
theorem forall_eq_iff (reading : Reading said) :
    (∀ name value, (name, value) ∈ said → reading.value? name = some value) ↔
      ∀ name value value', (name, value) ∈ said → (name, value') ∈ said → value = value' := by
  constructor
  · intro recovers name value value' member member'
    exact Option.some.inj ((recovers name value member).symm.trans (recovers name value' member'))
  · intro unique name value member
    obtain ⟨other, found⟩ := Option.isSome_iff_exists.mp (reading.complete name value member)
    rw [found, unique name other value (reading.sound name other found) member]

end Url.Reading

namespace Channel

open Outbox (acceptances prepared)
open Outbox.System (effectsIn next?)

/-! ### What is said -/

/-- What the address of an image says about an event: names, each with a text. -/
inductive Says (config : Config) (event : Event) : String → String → Prop
  | tracker : Says config event "tracker_id" config.apiKey
  | kind : Says config event "event_type" event.kind
  | action : Says config event "vdl_action" event.action
  | identifier {name value : String} (h : (name, value) ∈ event.identifiers) :
      Says config event name value
  | text {name s : String} (h : (name, .str s) ∈ event.data) : Says config event name s
  | scalar {name : String} {v : Json} (h : (name, v) ∈ event.data) (other : ∀ s, v ≠ .str s) :
      Says config event name v.text

variable {config : Config} {event : Event} {name text : String}

theorem dataText_of_ne {v : Json} (h : ∀ s, v ≠ .str s) : dataText v = v.text := by
  cases v with
  | str s => exact absurd rfl (h s)
  | _ => rfl

/-- The names and values in the query are what is said, and nothing else. -/
theorem mem_pixelPairs_iff : (name, text) ∈ pixelPairs config event ↔ Says config event name text := by
  simp only [pixelPairs, List.mem_append, List.mem_cons, List.not_mem_nil, or_false, Prod.mk.injEq,
    List.mem_map]
  constructor
  · rintro ((((⟨rfl, rfl⟩ | ⟨rfl, rfl⟩ | ⟨rfl, rfl⟩)) | member) | ⟨⟨name, v⟩, member, rfl, rfl⟩)
    · exact .tracker
    · exact .kind
    · exact .action
    · exact .identifier member
    · cases v with
      | str s => exact .text member
      | _ => exact .scalar member (by simp)
  · rintro (_ | _ | _ | member | member | ⟨member, other⟩)
    · exact .inl (.inl (.inl ⟨rfl, rfl⟩))
    · exact .inl (.inl (.inr (.inl ⟨rfl, rfl⟩)))
    · exact .inl (.inl (.inr (.inr ⟨rfl, rfl⟩)))
    · exact .inl (.inr member)
    · exact .inr ⟨_, member, rfl, rfl⟩
    · exact .inr ⟨_, member, rfl, dataText_of_ne other⟩

theorem pixelUrl_eq_ok {base : Url}
    (address : Url.ofText (config.pixelUrl ++ "/v2/zaius.gif") = .ok base) :
    pixelUrl config event = .ok (base.withPairs (pixelPairs config event)) := by
  rw [pixelUrl, address]
  rfl

/-- Where the address of images can be read, an event is requested under an address whose query says, behind
what was there before, the key of the project, the type and the action of the event, its identifiers and its
data, and nothing else. A reading of these names and values as a table gives all of it back if and only if no
name is used for two different values. -/
theorem recovers_iff (config : Config) (event : Event) {base : Url}
    (address : Url.ofText (config.pixelUrl ++ "/v2/zaius.gif") = .ok base) :
    ∃ (url : Url) (said : List (String × String)),
      pixelUrl config event = .ok url ∧ Channel.pixel.request config [event] = .ok (.get url.text) ∧
      url.pairs = base.pairs ++ said.map (Prod.map some some) ∧
      (∀ name text, (name, text) ∈ said ↔ Says config event name text) ∧
      ∀ reading : Url.Reading said,
        (∀ name text, Says config event name text → reading.value? name = some text) ↔
          ∀ name text text', Says config event name text → Says config event name text' →
            text = text' := by
  have url : pixelUrl config event = _ := pixelUrl_eq_ok address
  refine ⟨_, pixelPairs config event, url, ?_, Url.pairs_withPairs base _,
    fun _ _ => mem_pixelPairs_iff, fun reading => ?_⟩
  · rw [request, url]
  · simpa only [mem_pixelPairs_iff] using reading.forall_eq_iff

/-- A configuration. -/
def standard : Config := ⟨"key", "https://api.zaius.com", "https://jumbe.zaius.com", []⟩

/-- The address of images under it. -/
def standardAddress : Url where
  scheme := "https".toList
  authority := "//jumbe.zaius.com".toList
  path := "/v2/zaius.gif".toList
  query := none
  fragment := none

theorem ofText_standard : Url.ofText (standard.pixelUrl ++ "/v2/zaius.gif") = .ok standardAddress := by
  have read : (Url.ofText (standard.pixelUrl ++ "/v2/zaius.gif")).toOption = some standardAddress := by
    decide +kernel
  cases found : Url.ofText (standard.pixelUrl ++ "/v2/zaius.gif") with
  | error flaw => simp [found, Except.toOption] at read
  | ok url =>
    rw [found] at read
    exact congrArg Except.ok (Option.some.inj read)

/-- What an event without clashing names says is read again, with its space and its other signs. -/
theorem recovers_iff_apart :
    let event : Event := ⟨"fullstack", "a=b&c", [("vuid", "u +%")], [("price", .bool true)]⟩
    ∃ url said, pixelUrl standard event = .ok url ∧
      url.pairs = standardAddress.pairs ++ said.map (Prod.map some some) ∧
      ∀ name text, Says standard event name text → (Url.Reading.last said).value? name = some text := by
  intro event
  obtain ⟨url, said, address, -, pairs, -, recovers⟩ := recovers_iff standard event ofText_standard
  refine ⟨url, said, address, pairs, (recovers (.last said)).mpr fun name text text' one other => ?_⟩
  have all : pixelPairs standard event = [("tracker_id", "key"), ("event_type", "fullstack"),
    ("vdl_action", "a=b&c"), ("vuid", "u +%"), ("price", "true")] := rfl
  rw [← mem_pixelPairs_iff, all] at one other
  simp only [List.mem_cons, List.not_mem_nil, Prod.mk.injEq, or_false] at one
  -- Whatever the name is, it stands at one place of the list only.
  rcases one with ⟨rfl, rfl⟩ | ⟨rfl, rfl⟩ | ⟨rfl, rfl⟩ | ⟨rfl, rfl⟩ | ⟨rfl, rfl⟩ <;>
    simpa [eq_comm] using other

/-- An event whose identifier has the name of the project's key is accepted, and what its address says cannot
all be read as a table. -/
theorem not_recovers_clash :
    let event : Event := ⟨"", "seen", [("tracker_id", "x")], [("idempotence_id", .str "1")]⟩
    let queued := prepared {} "1" event
    acceptances (effectsIn (Run.steps next? { settings := {} }
      [.start true, .update (.integrated standard), .send "1" event])) = [queued] ∧
    ∃ url said, pixelUrl standard queued = .ok url ∧
      url.pairs = standardAddress.pairs ++ said.map (Prod.map some some) ∧
      ¬ ∃ reading : Url.Reading said,
        ∀ name text, Says standard queued name text → reading.value? name = some text := by
  intro event queued
  refine ⟨rfl, _, pixelPairs standard queued, pixelUrl_eq_ok ofText_standard,
    Url.pairs_withPairs _ _, ?_⟩
  rintro ⟨reading, recovers⟩
  have key := recovers _ _ .tracker
  have other := recovers "tracker_id" "x" (.identifier (.head _))
  exact absurd (Option.some.inj (key.symm.trans other)) (by decide)

end Channel

end Targeting.Platform
