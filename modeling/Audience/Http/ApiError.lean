import Audience.Http.Message
import Audience.Service.FilterService

/-!
Errors as responses. What is wrong with a request is said in full; what went wrong behind the service is not:
every such failure has the same body.
-/

namespace Audience.Http

/-- What a request is answered with when it fails. -/
inductive ApiError where
  | badRequest (message : String)
  | notFound (message : String)
  | internal (message : String)
deriving DecidableEq, Repr

namespace ApiError

/-- The one message for everything that goes wrong behind the service. -/
def internalMessage : String := "Error executing filter query"

/-- A failure behind the service. -/
def hidden : ApiError := .internal internalMessage

/-- The error of a request without rows. -/
def ofQueryError : FilterQueryError → ApiError
  | .badRequest cause => .badRequest cause.message
  | _ => hidden

/-- The error of a table without a schema. -/
def ofSchemaError : SchemaError → ApiError
  | .invalidIdentifier name => .badRequest (SchemaError.invalidIdentifier name).message
  | .tableNotFound table => .notFound (SchemaError.tableNotFound table).message
  | .catalog .. => hidden

/-- The status of the response. -/
def status : ApiError → Nat
  | badRequest _ => 400
  | notFound _ => 404
  | internal _ => 500

/-- The text in the response. -/
def message : ApiError → String
  | badRequest m => m
  | notFound m => m
  | internal m => m

/-- The response. -/
def response (e : ApiError) : Response := .json e.status (.obj [("error", .str e.message)])

end ApiError

end Audience.Http
