import Audience.Warehouse.Statement

/-!
Statements as the remote warehouse takes them: the text, and each parameter with its type and its value as
text. Null has no type of its own; it is sent as text without a value.
-/

namespace Audience

/-- A parameter as it is sent. -/
structure QueryParameter where
  name : String
  type : String
  /-- The value as text; null has none. -/
  value : Option String
deriving DecidableEq, Repr

namespace QueryParameter

/-- The declared type of a value. -/
def typeOf : Value → String
  | .bool _ => "BOOL"
  | .int64 _ => "INT64"
  | .float64 _ => "FLOAT64"
  | .null => "STRING"
  | .string _ => "STRING"

/-- The value as text; null has none. -/
def textOf? : Value → Option String
  | .null => none
  | v => some v.text

/-- The parameter that binds a value to a name. -/
def ofValue (name : String) (v : Value) : QueryParameter := ⟨name, typeOf v, textOf? v⟩

/-- The parameter as JSON. -/
def toJson (p : QueryParameter) : Json :=
  .obj [
    ("name", .str p.name),
    ("parameterType", .obj [("type", .str p.type)]),
    ("parameterValue", .obj (p.value.toList.map fun text => ("value", .str text)))]

end QueryParameter

/-- A query as it is sent: a statement and how long, in milliseconds, the warehouse may take for it. -/
structure QueryJob where
  sql : String
  parameters : List QueryParameter
  timeout : Nat
deriving DecidableEq, Repr

namespace QueryJob

/-- The query for a statement. -/
def ofStatement (s : Statement) (timeout : Nat) : QueryJob :=
  ⟨s.sql, s.params.entries.map fun (name, v) => .ofValue name v, timeout⟩

/-- The time limit as it is sent, in 64 bits. -/
def timeoutMs (q : QueryJob) : UInt64 := UInt64.ofNat q.timeout

/-- The query as JSON. -/
def toJson (q : QueryJob) : Json :=
  .obj [
    ("query", .str q.sql),
    ("useLegacySql", .bool false),
    ("parameterMode", .str "NAMED"),
    ("queryParameters", .arr (q.parameters.map QueryParameter.toJson)),
    ("timeoutMs", .ofUInt64 q.timeoutMs)]

end QueryJob

end Audience
