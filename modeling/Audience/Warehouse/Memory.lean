import Audience.Text.Split
import Audience.Warehouse.Statement

/-!
A warehouse held in memory. Look-ups in the catalog are answered from the registered tables; any other
statement gives the rows of the table that its text refers to first, whatever it asks of them. While a
failure is set, every statement ends in it.
-/

namespace Audience

/-- A column as it was registered. -/
structure MemoryColumn where
  name : String
  dataType : String
  required : Bool
deriving DecidableEq, Repr

/-- A registered table. -/
structure MemoryTable where
  columns : List MemoryColumn
  rows : List Row
deriving DecidableEq

/-- Registered tables under their names, and the failure that is set. -/
structure MemoryWarehouse where
  tables : NameMap MemoryTable
  failure : Option WarehouseError
deriving DecidableEq

namespace MemoryWarehouse

/-- A warehouse without tables. -/
def empty : MemoryWarehouse := ⟨∅, none⟩

/-- Registers a table without rows, in place of one of that name. -/
def register (w : MemoryWarehouse) (name : String) (columns : List MemoryColumn) : MemoryWarehouse :=
  { w with tables := w.tables.insert name ⟨columns, []⟩ }

/-- Puts rows into a registered table in place of the ones there. -/
def setRows (w : MemoryWarehouse) (name : String) (rows : List Row) : MemoryWarehouse :=
  match w.tables.get? name with
  | some t => { w with tables := w.tables.insert name { t with rows := rows } }
  | none => w

/-- Sets the failure or takes it back. -/
def setFailure (w : MemoryWarehouse) (failure : Option WarehouseError) : MemoryWarehouse :=
  { w with failure := failure }

/-- A column as a row of the catalog. -/
def catalogRow (c : MemoryColumn) : Row :=
  NameMap.ofList [("column_name", .string c.name), ("data_type", .string c.dataType),
    ("is_nullable", .string (if c.required then "NO" else "YES"))]

/-- The columns of the table named by the parameter. -/
def catalogColumns (w : MemoryWarehouse) (params : Params) : List Row :=
  match ((params.get? "table").bind Value.str?).bind w.tables.get? with
  | some t => t.columns.map catalogRow
  | none => []

/-- The names of the tables in ascending order. -/
def catalogTables (w : MemoryWarehouse) : List Row :=
  w.tables.names.map fun name => NameMap.empty.insert "table_name" (.string name)

/-- The end of a quoted reference to the table. -/
def reference (name : String) : List Char := '.' :: (name.toList ++ "`".toList)

/-- How many characters stand before the first reference to the table. -/
def firstReference? (sql name : String) : Option Nat :=
  (Text.splitOnce (reference name) sql.toList).map fun (before, _) => before.length

/-- The table with the earliest reference, of the tables from an entry on. -/
def earliest (sql : String) : List (String × MemoryTable) → Option (Nat × MemoryTable)
  | [] => none
  | (name, t) :: rest =>
    match firstReference? sql name, earliest sql rest with
    | none, found => found
    | some n, none => some (n, t)
    | some n, some (m, u) => if n ≤ m then some (n, t) else some (m, u)

/-- The rows of the table that the text refers to first. -/
def tableRows (w : MemoryWarehouse) (sql : String) : List Row :=
  match earliest sql w.tables.entries with
  | some (_, t) => t.rows
  | none => []

/-- The text has the part somewhere. -/
def mentions (sql part : String) : Bool := Text.occursIn part.toList sql.toList

/-- The answer to a statement. -/
def answer (w : MemoryWarehouse) : Warehouse := fun s =>
  match w.failure with
  | some e => .error e
  | none =>
    .ok (if mentions s.sql "INFORMATION_SCHEMA.COLUMNS" then w.catalogColumns s.params
      else if mentions s.sql "INFORMATION_SCHEMA.TABLES" then w.catalogTables
      else w.tableRows s.sql)

end MemoryWarehouse

end Audience
