import Audience.Json.Printer
import Audience.Data.NameMap

/-!
Scalar values, as they are bound to statements and found in result rows. A scalar JSON value is one of them:
an integer of 64 bits with a sign stays an integer, any other number becomes the nearest binary64 number.
-/

namespace Audience

/-- A scalar value. -/
inductive Value where
  | null
  | bool (b : Bool)
  | int64 (n : Int64)
  | float64 (x : Float64)
  | string (s : String)
deriving DecidableEq, Inhabited

/-- A result row: its values under the names of their columns. -/
abbrev Row := NameMap Value

namespace Value

/-- The range of the integers that are bound as such. -/
def InRange (n : Int) : Prop := -0x8000000000000000 ≤ n ∧ n < 0x8000000000000000

instance (n : Int) : Decidable (InRange n) := inferInstanceAs (Decidable (_ ∧ _))

/-- The kind of a value. -/
def kind : Value → String
  | null => "null"
  | bool _ => "bool"
  | int64 _ => "int64"
  | float64 _ => "float64"
  | string _ => "string"

/-- The scalar that a JSON value is; none for arrays and objects. -/
def ofJson? : Json → Option Value
  | .null => some .null
  | .bool b => some (.bool b)
  | .int n => some (if InRange n.val then .int64 (Int64.ofInt n.val) else .float64 (Float64.ofInt n.val))
  | .float x => some (.float64 (.finite x))
  | .str s => some (.string s)
  | .arr _ => none
  | .obj _ => none

/-- The integer that a number is exactly, when it is one in range. -/
def toInt64? : Value → Option Int64
  | int64 n => some n
  | float64 (.finite x) =>
    match x.toInt? with
    | some n => if InRange n then some (Int64.ofInt n) else none
    | none => none
  | _ => none

/-- A number as a binary64 number, the nearest one to an integer. -/
def toFloat64? : Value → Option Float64
  | int64 n => some (Float64.ofInt n.toInt)
  | float64 x => some x
  | _ => none

/-- The text of a string. -/
def str? : Value → Option String
  | string s => some s
  | _ => none

/-- The value is null. -/
def isNull : Value → Bool
  | null => true
  | _ => false

/-- The value as it is shown in messages and sent as a parameter. -/
def text : Value → String
  | null => "NULL"
  | bool b => if b then "true" else "false"
  | int64 n => integerText n.toInt
  | float64 x => x.text
  | string s => s

/-- The value as JSON; a number that is not finite becomes null. -/
def toJson : Value → Json
  | null => .null
  | bool b => .bool b
  | int64 n => .ofInt64 n
  | float64 (.finite x) => .float x
  | float64 _ => .null
  | string s => .str s

end Value

/-- A row as a JSON object. -/
def Row.toJson (row : Row) : Json := .obj (row.entries.map fun e => (e.1, e.2.toJson))

end Audience
