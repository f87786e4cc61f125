import Audience.Catalog.TableRef
import Audience.Filter.Condition

/-!
The statement around a `WHERE` text. The base table is filtered first and then joined with a companion table,
whose columns come along without the join key; of the rows with one key only the first by the tiebreak column
stays. Reminders join the companion of their send mode and need a match there; all others keep every row.
-/

namespace Audience

/-- The names that the statement is built with. -/
structure QueryTemplates where
  /-- The column that keeps one row per value and joins the companion. -/
  dedupColumn : String := "telefono"
  /-- The column that orders the rows of one value. -/
  tiebreakColumn : String := "fecha_actualizacion"
  /-- The companion of reminders, without the ending for its send mode. -/
  reminderCompanion : String := "envios"
  /-- The companion of every other kind. -/
  defaultCompanion : String := "contactos"
deriving DecidableEq, Repr

namespace QueryTemplates

/-- The companion's table name. -/
def companion (t : QueryTemplates) (campaign : CampaignKind) (mode : SendMode) : String :=
  match campaign with
  | .reminder => t.reminderCompanion ++ "_" ++ mode.name
  | _ => t.defaultCompanion

/-- How the companion is joined. -/
def join : CampaignKind → String
  | .reminder => "INNER JOIN"
  | _ => "LEFT JOIN"

/-- The SQL text for the table and the `WHERE` text. -/
def sql (t : QueryTemplates) (table : TableRef) (whereText : String) (campaign : CampaignKind)
    (mode : SendMode) : String :=
  let companion : TableRef := { table with table := t.companion campaign mode }
  "WITH filtrado AS (\n" ++
  "  SELECT * FROM `" ++ table.qualified ++ "` WHERE " ++ whereText ++ "\n" ++
  "),\n" ++
  "unido AS (\n" ++
  "  SELECT f.*, c.* EXCEPT(" ++ t.dedupColumn ++ "),\n" ++
  "    ROW_NUMBER() OVER (PARTITION BY f." ++ t.dedupColumn ++ " ORDER BY f." ++ t.tiebreakColumn ++
    ") AS rn\n" ++
  "  FROM filtrado AS f\n" ++
  "  " ++ join campaign ++ " `" ++ companion.qualified ++ "` AS c ON f." ++ t.dedupColumn ++ " = c." ++
    t.dedupColumn ++ "\n" ++
  ")\n" ++
  "SELECT * EXCEPT(rn) FROM unido WHERE rn = 1"

/-- The statement for compiled filters on the table. -/
def statement (t : QueryTemplates) (table : TableRef) (compiled : CompiledFilters) (campaign : CampaignKind)
    (mode : SendMode) : Statement :=
  ⟨t.sql table compiled.whereText campaign mode, compiled.params⟩

end QueryTemplates

end Audience
