import Audience.Json.Printer
import Audience.Text.Shown

/-!
Filters as they are chosen: a column, the group that the choice was made in, and the value to compare with.
A filter comes as a JSON object or as the list of its parts. Some values stand for every row.
-/

namespace Audience

namespace Json

/-- What a value is, in the words of a message. -/
def described : Json → String
  | null => "null"
  | bool b => "boolean `" ++ (if b then "true" else "false") ++ "`"
  | int n => "integer `" ++ integerText n.val ++ "`"
  | float x => "floating point `" ++ x.jsonText ++ "`"
  | str s => "string " ++ Text.shown s
  | arr _ => "sequence"
  | obj _ => "map"

end Json

/-- One chosen filter. -/
structure FilterSpec where
  column : String
  group : String
  value : Json

namespace FilterSpec

/-- Why a JSON value is no filter. -/
inductive ReadError where
  | notText (found : Json)
  | notFilter (found : Json)
  | missingColumn
  | noParts
  | extraParts (count : Nat)

/-- The message of each cause. -/
def ReadError.message : ReadError → String
  | notText found => s!"invalid type: {found.described}, expected a string"
  | notFilter found => s!"invalid type: {found.described}, expected struct FilterSpec"
  | missingColumn => "missing field `column`"
  | noParts => "invalid length 0, expected struct FilterSpec with 3 elements"
  | extraParts count => s!"invalid length {count}, expected fewer elements in array"

/-- The text that a part holds. -/
def textOf : Json → Except ReadError String
  | .str s => .ok s
  | found => .error (.notText found)

/-- The group of a filter: empty when it is left out. -/
def groupOf : Option Json → Except ReadError String
  | none => .ok ""
  | some j => textOf j

/-- The filter that a JSON value describes. The column is looked at before the group, and what is there
before what is missing. -/
def ofJson (j : Json) : Except ReadError FilterSpec :=
  match j with
  | .obj _ => do
    let column ← (j.field? "column").mapM textOf
    let group ← groupOf (j.field? "type")
    match column with
    | none => .error .missingColumn
    | some column => .ok ⟨column, group, (j.field? "value").getD .null⟩
  | .arr [] => .error .noParts
  | .arr (column :: parts) => do
    let column ← textOf column
    let group ← groupOf parts[0]?
    if 2 < parts.length then .error (.extraParts (parts.length + 1))
    else .ok ⟨column, group, parts[1]?.getD .null⟩
  | found => .error (.notFilter found)

/-- The value that is chosen for all rows, besides the empty one. -/
def everything : String := "Todos"

/-- The filter lets every row pass. -/
def isWildcard (f : FilterSpec) : Bool :=
  match f.value with
  | .null => true
  | .str s => s == "" || s == everything
  | _ => false

/-- The filter as a JSON object. -/
def toJson (f : FilterSpec) : Json :=
  .obj [("column", .str f.column), ("type", .str f.group), ("value", f.value)]

end FilterSpec

end Audience
