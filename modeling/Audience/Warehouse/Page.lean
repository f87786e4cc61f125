import Audience.Data.ColumnType
import Audience.Json.Record
import Audience.Number.Reading
import Audience.Warehouse.Statement

/-!
Pages of a query's result. A page says whether the query is done, names the fields, holds rows of cells, and
may announce a further page; what else it says is passed over. Cells arrive as text; the type of their field
says what they are read as. A row is read as a whole: one cell to a field, and none that cannot be read.
-/

namespace Audience

/-- Where further pages of a query are found. -/
structure JobReference where
  project : String
  job : String
  location : Option String
deriving DecidableEq, Repr

/-- A field of a result. -/
structure Field where
  name : String
  typeName : String
  mode : Option String
deriving DecidableEq, Repr

/-- A page of a result. -/
structure Page where
  complete : Bool
  fields : List Field
  rows : List (List Json)
  token : Option String
  job : Option JobReference

namespace JobReference

/-- What is read of a reference. -/
def shape : Json.Shape := .record [("projectId", .whole), ("jobId", .whole), ("location", .whole)]

/-- The reference in a page. -/
def ofJson? (j : Json) : Option JobReference := do
  guard (j.isRecord 3)
  return {
    project := ← (j.part 0 "projectId").required? Json.str?
    job := ← (j.part 1 "jobId").required? Json.str?
    location := ← (j.part 2 "location").optional? Json.str? }

end JobReference

namespace Field

/-- What is read of a field. -/
def shape : Json.Shape := .record [("name", .whole), ("type", .whole), ("mode", .whole)]

/-- A field in a page. -/
def ofJson? (j : Json) : Option Field := do
  guard (j.isRecord 3)
  return {
    name := ← (j.part 0 "name").required? Json.str?
    typeName := ← (j.part 1 "type").required? Json.str?
    mode := ← (j.part 2 "mode").optional? Json.str? }

/-- The field holds lists. -/
def isRepeated (f : Field) : Bool := f.mode == some "REPEATED"

/-- The type of the field's cells. -/
def type (f : Field) : ColumnType := ColumnType.normalize f.typeName

end Field

/-- Why a cell cannot be read. -/
inductive CellError where
  | integer (cause : IntegerError)
  | float (cause : FloatError)
  | bool
deriving DecidableEq, Repr

/-- The message of each cause. -/
def CellError.message : CellError → String
  | integer cause => cause.message
  | float cause => cause.message
  | bool => "provided string was not `true` or `false`"

/-- Why a row cannot be read. -/
inductive RowError where
  | width (cells fields : Nat)
  | cell (column : String) (cause : CellError)
deriving DecidableEq, Repr

/-- The message of each cause. -/
def RowError.message : RowError → String
  | width cells fields => s!"row has {cells} cells, schema has {fields} fields"
  | cell column cause => s!"column {column}: {cause.message}"

namespace Field

/-- A cell's text as a value of a type. Types without a reading of their own keep the text. -/
def valueOf (type : ColumnType) (text : String) : Except CellError Value :=
  match type with
  | .int64 => (Reading.int64 text.toList).mapError CellError.integer |>.map Value.int64
  | .float64 => (Reading.float64 text.toList).mapError CellError.float |>.map Value.float64
  | .bool =>
    if text = "true" then .ok (.bool true) else if text = "false" then .ok (.bool false) else .error .bool
  | _ => .ok (.string text)

/-- The value of a cell. What is no text keeps its JSON as text, and so does the text of a list. -/
def decode (f : Field) : Json → Except CellError Value
  | .null => .ok .null
  | .str text => if f.isRepeated then .ok (.string text) else valueOf f.type text
  | cell => .ok (.string cell.text)

/-- The value of a cell under the name of its field. -/
def decodeNamed (f : Field) (cell : Json) : Except RowError (String × Value) :=
  match f.decode cell with
  | .ok v => .ok (f.name, v)
  | .error cause => .error (.cell f.name cause)

/-- A row of cells as values under the names of the fields. -/
def decodeRow (fields : List Field) (cells : List Json) : Except RowError Row :=
  if cells.length = fields.length then
    ((fields.zip cells).mapM fun p => decodeNamed p.1 p.2).map NameMap.ofList
  else .error (.width cells.length fields.length)

/-- Rows of cells. The first one that cannot be read is the error. -/
def decodeRows (fields : List Field) (rows : List (List Json)) : Except RowError (List Row) :=
  rows.mapM (decodeRow fields)

end Field

namespace Page

/-- What is read of a cell. -/
def cellShape : Json.Shape := .record [("v", .whole)]

/-- What is read of a row. -/
def rowShape : Json.Shape := .record [("f", .list cellShape)]

/-- What is read of the fields. -/
def fieldsShape : Json.Shape := .record [("fields", .list Field.shape)]

/-- What is read of a page. -/
def shape : Json.Shape :=
  .record [("jobComplete", .whole), ("schema", fieldsShape), ("rows", .list rowShape), ("pageToken", .whole),
    ("jobReference", JobReference.shape)]

/-- The cell in a page; null when it has no value. -/
def cell? (j : Json) : Option Json := do
  guard (j.isRecord 1)
  (j.part 0 "v").withDefault? .null some

/-- The cells of a row in a page. -/
def row? (j : Json) : Option (List Json) := do
  guard (j.isRecord 1)
  (j.part 0 "f").withDefault? [] (Json.list? cell?)

/-- The fields in a page. -/
def fields? (j : Json) : Option (List Field) := do
  guard (j.isRecord 1)
  (j.part 0 "fields").withDefault? [] (Json.list? Field.ofJson?)

/-- The page that a JSON value describes. -/
def ofJson? (j : Json) : Option Page := do
  guard (j.isRecord 5)
  return {
    complete := ← (j.part 0 "jobComplete").withDefault? false Json.bool?
    fields := (← (j.part 1 "schema").optional? fields?).getD []
    rows := (← (j.part 2 "rows").optional? (Json.list? row?)).getD []
    token := ← (j.part 3 "pageToken").optional? Json.str?
    job := ← (j.part 4 "jobReference").optional? JobReference.ofJson? }

/-- The page that a text holds. -/
def read? (text : String) : Option Page := (Json.parseAs? shape text).bind ofJson?

/-- Where the further page that this one announces is found. -/
def next? (p : Page) : Option (String × JobReference) := do
  return (← p.token, ← p.job)

end Page

example : (Page.read?
    "\x7b\"jobComplete\":true,\"rows\":[\x7b\"f\":[\x7b\"v\":\"30\"\x7d,\x7b\x7d]\x7d],\"pageToken\":null\x7d").map
      (fun p => (p.complete, p.rows.map List.length, p.token)) = some (true, [2], none) := by
  decide +kernel

-- A number out of range and half of a surrogate pair do no harm where nothing is read.
example : ((Page.read? "\x7b\"jobComplete\":true,\"etag\":[1e999,\"\\uD800\"]\x7d").map Page.complete,
    (Page.read? "\x7b\"jobComplete\":true,\"rows\":[\x7b\"f\":[\x7b\"v\":1e999\x7d]\x7d]\x7d").map Page.complete) =
      (some true, none) := by
  decide +kernel

end Audience
