import Targeting.Json.Reader

/-!
# Records in JSON

A record with named fields is written as an object, or as a list of its fields in their fixed
order. In an object unknown fields are ignored. In a list trailing fields may be cut off, but there
are never more items than fields. Which absence is allowed depends on the field.

## Main definitions

* `Slot` — what a record holds for a field
* `Slot.required`, `Slot.orElse`, `Slot.optional` — ways to read a field
* `Record` — the slots of a record, by name
* `Json.record?`, `Raw.record?` — the record that a value is
-/

namespace Targeting

/-- What a record holds for a field: a value, nothing in an object, or nothing in a list that has
ended before. -/
inductive Slot (ν : Type) where
  | given (v : ν)
  | omitted
  | cutOff

namespace Slot

variable {ν α : Type}

/-- A field that must be there. -/
def required (read : ν → Option α) : Slot ν → Option α
  | given v => read v
  | _ => none

/-- A field that has a default. -/
def orElse (read : ν → Option α) (default : α) : Slot ν → Option α
  | given v => read v
  | _ => some default

/-- A field that may be missing in an object, but not in a list. -/
def optional (read : ν → Option (Option α)) : Slot ν → Option (Option α)
  | given v => read v
  | omitted => some none
  | cutOff => none

end Slot

/-- The slots of a record, by field name. -/
abbrev Record (ν : Type) := String → Slot ν

namespace Record

variable {ν : Type}

/-- The record written as an object. -/
def ofFields (fields : List (String × ν)) : Record ν := fun name =>
  match fields.lookup name with
  | some v => .given v
  | none => .omitted

/-- The record written as a list of the fields with the given names. -/
def ofItems? (names : List String) (items : List ν) : Option (Record ν) :=
  if items.length ≤ names.length then
    some fun name =>
      match (names.zip items).lookup name with
      | some v => .given v
      | none => .cutOff
  else none

end Record

namespace Json

/-- The record with the given field names that a value is. -/
def record? (names : List String) : Json → Option (Record Json)
  | .obj fields => some (.ofFields fields)
  | .arr items => Record.ofItems? names items
  | _ => none

/-- A null, or what `read` makes of another value. -/
def nullable {α : Type} (read : Json → Option α) : Json → Option (Option α)
  | .null => some none
  | v => (read v).map some

end Json

namespace Raw

/-- The names of raw fields that can be read; none if one cannot. -/
def named? (fields : List (Option String × Raw)) : Option (List (String × Raw)) :=
  fields.mapM fun (name, v) => name.map (·, v)

/-- The record with the given field names that a raw value is. None of these fields may be repeated;
the values of other fields are not looked at. -/
def record? (names : List String) : Raw → Option (Record Raw)
  | .obj fields => do
    let fields ← named? fields
    let known := (fields.map Prod.fst).filter names.contains
    if known.Nodup then some (.ofFields fields) else none
  | .arr items => Record.ofItems? names items
  | _ => none

/-- The text that a raw value is. -/
def text? : Raw → Option String
  | .str s => s
  | _ => none

/-- A null, or what `read` makes of another raw value. -/
def nullable {α : Type} (read : Raw → Option α) : Raw → Option (Option α)
  | .null => some none
  | v => (read v).map some

/-- A list of what `read` makes of its items. -/
def list? {α : Type} (read : Raw → Option α) : Raw → Option (List α)
  | .arr items => items.mapM read
  | _ => none

end Raw

end Targeting
