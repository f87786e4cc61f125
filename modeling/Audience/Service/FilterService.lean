import Audience.Filter.Template
import Audience.Results.Cache
import Audience.Service.Request

/-!
The service that answers filter requests. A result held in the cache is the answer; otherwise the table's
schema is looked up, the filters are compiled against it, the statement is sent, and its rows are stored
under the request's key. Nothing is stored unless every step succeeds.
-/

namespace Audience

/-- Why a request has no rows. -/
inductive FilterQueryError where
  | badRequest (cause : RequestError)
  | schemaUnavailable (cause : SchemaError)
  | compile (table : String) (cause : CompileError)
  | execution (table : String) (cause : WarehouseError)

/-- The message of each cause. -/
def FilterQueryError.message : FilterQueryError → String
  | badRequest cause => s!"Bad request: {cause.message}"
  | schemaUnavailable cause => s!"Schema unavailable: {cause.message}"
  | compile table cause => s!"Compile error on table '{table}': {cause.message}"
  | execution table cause => s!"Execution error on table '{table}': {cause.message}"

/-- The rows for a request and whether they were held in the cache. -/
structure FilterOutcome where
  rows : List Row
  fromCache : Bool
deriving DecidableEq

/-- The service: where its tables are, the two caches, and the warehouse with what was sent to it. -/
structure FilterService where
  project : String
  dataset : String
  templates : QueryTemplates
  results : ResultCache
  schemas : SchemaCache
  gateway : Gateway

namespace FilterService

/-- A service that has done nothing yet. -/
def new (project dataset : String) (templates : QueryTemplates) (results : ResultCache)
    (warehouse : Warehouse) : FilterService :=
  ⟨project, dataset, templates, results, .empty, .new warehouse⟩

/-- A table of the service's dataset. -/
def tableRef (s : FilterService) (table : String) : TableRef := ⟨s.project, s.dataset, table⟩

/-- The error of a request whose table has no schema. -/
def schemaError : SchemaError → FilterQueryError
  | .invalidIdentifier name => .badRequest (.invalidTable name)
  | cause => .schemaUnavailable cause

/-- The statement of a request for a table with this schema. -/
def statementFor (templates : QueryTemplates) (schema : TableSchema) (r : FilterRequest) :
    Except FilterQueryError Statement :=
  match compile schema.columns r.filters r.campaign with
  | .error cause => .error (.compile r.table cause)
  | .ok compiled => .ok (templates.statement schema.ref compiled r.campaign r.mode)

/-- Looks up the schema for a request and makes its statement. -/
def prepare (s : FilterService) (r : FilterRequest) : Except FilterQueryError Statement × FilterService :=
  let (schema, schemas, gateway) := s.schemas.get s.gateway (s.tableRef r.table)
  let s := { s with schemas, gateway }
  match schema with
  | .error cause => (.error (schemaError cause), s)
  | .ok schema => (statementFor s.templates schema r, s)

/-- Sends the statement of a request and stores its rows. -/
def execute (s : FilterService) (now : Nat) (r : FilterRequest) (statement : Statement) :
    Except FilterQueryError FilterOutcome × FilterService :=
  let (answer, gateway) := s.gateway.send statement
  let s := { s with gateway }
  match answer with
  | .error cause => (.error (.execution r.table cause), s)
  | .ok rows => (.ok ⟨rows, false⟩, { s with results := s.results.put r.key rows now })

/-- Answers a request at a time. -/
def run (s : FilterService) (now : Nat) (r : FilterRequest) :
    Except FilterQueryError FilterOutcome × FilterService :=
  let (held, results) := s.results.get r.key now
  let s := { s with results }
  match held with
  | some rows => (.ok ⟨rows, true⟩, s)
  | none =>
    let (statement, s) := s.prepare r
    match statement with
    | .error e => (.error e, s)
    | .ok statement => s.execute now r statement

end FilterService

end Audience
