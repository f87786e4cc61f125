import Audience.Catalog.Column
import Audience.Data.ColumnType

/-!
Schemas of tables, loaded from the catalog on first use and kept until they are taken out. Only a load that
succeeds with at least one column is kept, so a failure never stays. A reference that is no valid identifier
is turned down before anything is sent. Several look-ups that run at the same time give each the answer that
it would get alone; look-ups of one missing table may share a load.
-/

namespace Audience

/-- The columns of a table and their types. -/
abbrev Columns := NameMap ColumnType

/-- A table and the columns that the catalog reported. -/
structure TableSchema where
  ref : TableRef
  columns : Columns
deriving DecidableEq

/-- Why there is no schema. -/
inductive SchemaError where
  | invalidIdentifier (name : String)
  | tableNotFound (table : String)
  | catalog (table : String) (cause : WarehouseError)
deriving DecidableEq, Repr

/-- The message of each cause. -/
def SchemaError.message : SchemaError → String
  | invalidIdentifier name => s!"Invalid identifier: '{name}'"
  | tableNotFound table => s!"Table '{table}' not found"
  | catalog table cause => s!"Catalog lookup for '{table}' failed: {cause.message}"

namespace TableSchema

/-- The schema with the columns, their types in canonical form; the last column of a name counts. -/
def ofColumns (ref : TableRef) (columns : List ColumnDescriptor) : TableSchema :=
  ⟨ref, NameMap.ofList (columns.map fun c => (c.name, ColumnType.normalize c.dataType))⟩

/-- The schema in what the catalog answered. -/
def ofCatalog (ref : TableRef) (columns : Except WarehouseError (List ColumnDescriptor)) :
    Except SchemaError TableSchema :=
  match columns with
  | .error cause => .error (.catalog ref.qualified cause)
  | .ok [] => .error (.tableNotFound ref.qualified)
  | .ok columns => .ok (ofColumns ref columns)

end TableSchema

/-- The schemas that are held, at most one to a table, and how many loads there were. -/
structure SchemaCache where
  held : List TableSchema
  loads : Nat
deriving DecidableEq

namespace SchemaCache

/-- A cache that holds nothing. -/
def empty : SchemaCache := ⟨[], 0⟩

/-- The schema held for a table. -/
def find? (c : SchemaCache) (t : TableRef) : Option TableSchema := c.held.find? fun s => s.ref = t

/-- A schema is held for the table. -/
def contains (c : SchemaCache) (t : TableRef) : Bool := (c.find? t).isSome

/-- Keeps a schema in place of the one held for its table. -/
def store (c : SchemaCache) (s : TableSchema) : SchemaCache :=
  { c with held := s :: c.held.filter fun other => other.ref ≠ s.ref }

/-- Takes out the schema of a table and says whether there was one. -/
def invalidate (c : SchemaCache) (t : TableRef) : Bool × SchemaCache :=
  (c.contains t, { c with held := c.held.filter fun s => s.ref ≠ t })

/-- Takes out every schema. -/
def invalidateAll (c : SchemaCache) : SchemaCache := { c with held := [] }

/-- Counts a load and keeps its schema when it has one. -/
def record (c : SchemaCache) (loaded : Except SchemaError TableSchema) : SchemaCache :=
  let c := { c with loads := c.loads + 1 }
  match loaded with
  | .ok s => c.store s
  | .error _ => c

/-- Loads the schema of a table from the catalog. -/
def load (c : SchemaCache) (g : Gateway) (t : TableRef) :
    Except SchemaError TableSchema × SchemaCache × Gateway :=
  let (columns, g) := Catalog.fetchColumns g t
  let loaded := TableSchema.ofCatalog t columns
  (loaded, c.record loaded, g)

/-- The schema of a table: the one held, or else loaded. -/
def get (c : SchemaCache) (g : Gateway) (t : TableRef) :
    Except SchemaError TableSchema × SchemaCache × Gateway :=
  match t.firstInvalid? with
  | some part => (.error (.invalidIdentifier part), c, g)
  | none =>
    match c.find? t with
    | some s => (.ok s, c, g)
    | none => c.load g t

/-- Looks up tables one after the other. -/
def getEach (c : SchemaCache) (g : Gateway) :
    List TableRef → List (Except SchemaError TableSchema) × SchemaCache × Gateway
  | [] => ([], c, g)
  | t :: rest =>
    let (first, c, g) := c.get g t
    let (others, c, g) := getEach c g rest
    (first :: others, c, g)

/-- The loads that look-ups started together have under way: the answer of each, by table. -/
abbrev Flights := List (TableRef × Except SchemaError TableSchema)

/-- Looks up tables together. Those that are missing when the look-ups start are loaded once each, in order of
their first appearance, and every look-up of the table takes the answer of that load. -/
def getShared (c : SchemaCache) (g : Gateway) (flights : Flights) :
    List TableRef → List (Except SchemaError TableSchema) × SchemaCache × Gateway
  | [] => ([], c, g)
  | t :: rest =>
    match flights.lookup t with
    | some answer =>
      let (others, c, g) := getShared c g flights rest
      (answer :: others, c, g)
    | none =>
      let (first, c, g) := c.get g t
      let (others, c, g) := getShared c g ((t, first) :: flights) rest
      (first :: others, c, g)

end SchemaCache

end Audience
