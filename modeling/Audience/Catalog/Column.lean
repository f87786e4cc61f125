import Audience.Catalog.TableRef
import Audience.Text.Blank
import Audience.Warehouse.Statement

/-!
What the warehouse's catalog says about a dataset: the columns of a table in their order and the names of all
tables. The name of the table is bound as a parameter; project and dataset stand in the text. An answer that
lacks a text where one belongs is an error as a whole.
-/

namespace Audience

/-- How a column holds values. -/
inductive ColumnMode where
  | nullable
  | required
  | repeated
deriving DecidableEq, Repr

namespace ColumnMode

/-- The name of the mode. -/
def name : ColumnMode → String
  | nullable => "NULLABLE"
  | required => "REQUIRED"
  | repeated => "REPEATED"

/-- The text starts as an array type does. -/
def isArray (dataType : String) : Bool :=
  "ARRAY<".toList.isPrefixOf ((Text.trimStartChars dataType.toList).map Char.toUpper)

/-- The mode that the catalog's two columns tell. -/
def ofCatalog (dataType isNullable : String) : ColumnMode :=
  if isArray dataType then repeated
  else if isNullable.toList.map Char.toUpper = "NO".toList then required
  else nullable

end ColumnMode

/-- A column as the catalog reports it. -/
structure ColumnDescriptor where
  name : String
  dataType : String
  mode : ColumnMode
deriving DecidableEq, Repr

namespace Catalog

/-- The text that lists the columns of a table. -/
def columnsSql (project dataset : String) : String :=
  "SELECT column_name, data_type, is_nullable FROM `" ++ project ++ "." ++ dataset ++
    ".INFORMATION_SCHEMA.COLUMNS` WHERE table_name = @table ORDER BY ordinal_position"

/-- The text that lists the tables of a dataset. -/
def tablesSql (project dataset : String) : String :=
  "SELECT table_name FROM `" ++ project ++ "." ++ dataset ++
    ".INFORMATION_SCHEMA.TABLES` ORDER BY table_name"

/-- The statement for the columns of a table. -/
def columnsStatement (t : TableRef) : Statement :=
  ⟨columnsSql t.project t.dataset, NameMap.empty.insert "table" (.string t.table)⟩

/-- The statement for the tables of a dataset. -/
def tablesStatement (project dataset : String) : Statement := ⟨tablesSql project dataset, ∅⟩

/-- The text in a column of a row. -/
def textIn (row : Row) (column : String) : Except WarehouseError String :=
  match (row.get? column).bind Value.str? with
  | some s => .ok s
  | none => .error (.deserialization ("catalog row is missing '" ++ column ++ "'"))

/-- The column that a row describes. -/
def columnOf (row : Row) : Except WarehouseError ColumnDescriptor := do
  let dataType ← textIn row "data_type"
  let name ← textIn row "column_name"
  let isNullable := ((row.get? "is_nullable").bind Value.str?).getD "YES"
  return ⟨name, dataType, .ofCatalog dataType isNullable⟩

/-- The columns in an answer to `columnsStatement`. -/
def columnsIn (answer : Except WarehouseError (List Row)) : Except WarehouseError (List ColumnDescriptor) := do
  (← answer).mapM columnOf

/-- The names in an answer to `tablesStatement`. -/
def tablesIn (answer : Except WarehouseError (List Row)) : Except WarehouseError (List String) := do
  (← answer).mapM fun row => textIn row "table_name"

/-- Looks up the columns of a table; none when there is no such table. -/
def fetchColumns (g : Gateway) (t : TableRef) : Except WarehouseError (List ColumnDescriptor) × Gateway :=
  let (answer, g) := g.send (columnsStatement t)
  (columnsIn answer, g)

/-- Looks up the tables of a dataset. -/
def listTables (g : Gateway) (project dataset : String) : Except WarehouseError (List String) × Gateway :=
  let (answer, g) := g.send (tablesStatement project dataset)
  (tablesIn answer, g)

end Catalog

end Audience
