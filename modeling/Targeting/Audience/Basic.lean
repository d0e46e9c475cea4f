import Targeting.Condition.Basic
import Targeting.Tree.Json

/-!
# Audiences

An audience is a named tree of conditions. A rule is targeted at audiences by another tree, whose
leaves are audience ids.

## Main definitions

* `Audience` — audiences
* `Audience.ofJson?`, `Audience.toJson` — reading and writing
* `Catalogue` — the audiences by id
* `Tree.ofTargeting?` — reading a tree of audience ids
-/

namespace Targeting

/-- A named tree of conditions. -/
structure Audience where
  id : String
  name : String
  conditions : Tree Condition

namespace Audience

/-- The tree of conditions that a value is. -/
def conditions? (v : Json) : Option (Tree Condition) := Tree.ofJson? Condition.ofJson? v

/-- The audience that a value is. -/
def ofJson? (v : Json) : Option Audience := do
  let fields ← v.record? ["id", "name", "conditions"]
  let id ← (fields "id").required Json.text?
  let name ← (fields "name").required Json.text?
  let conditions ← (fields "conditions").required conditions?
  return { id, name, conditions }

/-- The value for an audience. -/
def toJson (a : Audience) : Json :=
  .obj [("id", .str a.id), ("name", .str a.name),
    ("conditions", a.conditions.toJson Condition.toJson)]

/-- The text of an audience's conditions. -/
def conditionsText (a : Audience) : String := (a.conditions.toJson Condition.toJson).text

end Audience

/-- The audiences by id. -/
abbrev Catalogue := String → Option Audience

/-- Audiences by their own ids; of several with one id the last counts. -/
def Catalogue.ofList (audiences : List Audience) : Catalogue := fun id =>
  audiences.reverse.find? (·.id == id)

namespace Tree

/-- The tree of audience ids that a value is. -/
def ofTargeting? (v : Json) : Option (Tree String) := ofJson? Json.text? v

end Tree

end Targeting
