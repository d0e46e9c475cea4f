import Targeting.Json.Printer
import Targeting.Json.Record

/-!
# Conditions

A condition is a leaf of an audience. It names what it looks at and how to judge it, and holds the
value to compare with. A value of a sort that no operator understands is kept, so that it can be
reported when the condition is judged.

## Main definitions

* `Condition.Value`, `Condition` — values and conditions
* `Condition.ofJson?`, `Condition.toJson`, `Condition.text` — reading and writing
-/

namespace Targeting

namespace Condition

/-- The value that a condition compares with. -/
inductive Value where
  | boolean (b : Bool)
  | number (x : Binary64)
  | text (s : String)
  | null
  | other (v : Json)

namespace Value

/-- The condition value that a value is; every value is one. -/
def ofJson : Json → Value
  | .bool b => boolean b
  | .num n => number n.size
  | .str s => text s
  | .null => null
  | v => other v

/-- The value for a condition value. -/
def toJson : Value → Json
  | boolean b => .bool b
  | number x => .float x
  | text s => .str s
  | null => .null
  | other v => v

/-- The text of a text value. -/
def text? : Value → Option String
  | text s => some s
  | _ => none

end Value

end Condition

/-- A question about a user: `kind` says who judges it, and `operator` how. -/
structure Condition where
  name : String := ""
  kind : String
  operator : Option String := none
  value : Condition.Value := .null

namespace Condition

/-- The names of the fields, in the order in which they are written. -/
def fieldNames : List String := ["name", "type", "match", "value"]

/-- The condition that a value is. -/
def ofJson? (v : Json) : Option Condition := do
  let fields ← v.record? fieldNames
  let name ← (fields "name").orElse Json.text? ""
  let kind ← (fields "type").required Json.text?
  let operator ← (fields "match").orElse (Json.nullable Json.text?) none
  let value ← (fields "value").orElse (fun v => some (Value.ofJson v)) .null
  return { name, kind, operator, value }

/-- The value for a condition; an absent operator is left out. -/
def toJson (c : Condition) : Json :=
  .obj ([("name", .str c.name), ("type", .str c.kind)]
    ++ (match c.operator with
      | some operator => [("match", .str operator)]
      | none => [])
    ++ [("value", c.value.toJson)])

/-- The text of a condition, as it stands in messages. -/
def text (c : Condition) : String := c.toJson.text

end Condition

end Targeting
