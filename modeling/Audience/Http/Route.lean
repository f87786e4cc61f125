import Audience.Http.Target

/-!
The routes of the service and the methods that each one serves. A route that answers `GET` answers `HEAD` too.
-/

namespace Audience.Http

/-- Where a path leads. -/
inductive Route where
  | health
  | filterQuery
  | cacheStats
  | cache
  | cacheClean
  /-- The schema of the table named by this part of the path. -/
  | schema (part : String)
deriving DecidableEq, Repr

namespace Route

/-- The path in front of the name of a table. -/
def schemaPath : List Char := "/schema/".toList

/-- The route of a path, when there is one. -/
def ofPath? (path : String) : Option Route :=
  match path with
  | "/health" => some health
  | "/filters/query" => some filterQuery
  | "/cache/stats" => some cacheStats
  | "/cache" => some cache
  | "/cache/clean" => some cacheClean
  | _ =>
    let part := path.toList.drop schemaPath.length
    if schemaPath.isPrefixOf path.toList ∧ part ≠ [] ∧ '/' ∉ part then some (schema (String.ofList part))
    else none

/-- The methods that a route serves, as a response names them. -/
def allowed : Route → String
  | health => "GET,HEAD"
  | filterQuery => "POST"
  | cacheStats => "GET,HEAD"
  | cache => "DELETE"
  | cacheClean => "POST"
  | schema _ => "GET,HEAD,DELETE"

end Route

end Audience.Http
