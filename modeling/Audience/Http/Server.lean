import Audience.Http.ApiError
import Audience.Http.MediaType
import Audience.Http.Route
import Audience.Json.Parser

/-!
The service over HTTP. A request is routed by its path and method and answered from the service's state; every
response admits callers of any origin. Reading the state changes no cache, and each of the administrative
requests changes only what it names.
-/

namespace Audience.Http

/-- The version that the service reports. -/
def version : String := "0.1.0"

/-- The largest body that is read, in bytes. -/
def bodyLimit : Nat := 2097152

/-- A natural number as a JSON number. Numbers past 64 bits do not occur. -/
def natJson (n : Nat) : Json := (Json.ofInt? n).getD .null

/-- Rows as JSON. -/
def rowsJson (rows : List Row) : Json := .arr (rows.map Row.toJson)

/-- The figures of a cache as JSON. -/
def statsJson (s : CacheStats) : Json :=
  .obj [("size", natJson s.size), ("maxSize", natJson s.maxSize), ("hits", natJson s.hits),
    ("misses", natJson s.misses), ("hitRate", .str s.hitRate), ("ttl", natJson s.timeToLive)]

/-- A column as JSON. -/
def columnJson (c : ColumnDescriptor) : Json :=
  .obj [("name", .str c.name), ("type", .str c.dataType), ("mode", .str c.mode.name)]

/-- The JSON value at the front of a request's body. The type of the body is checked before its length, and
its length before its text. One message stands for every body that is no JSON: where and why the reader gave up
is not told. -/
def bodyOf (r : Request) : Except ApiError Json :=
  if ((r.header? "content-type").bind MediaType.read?).map MediaType.isJson ≠ some true then
    .error (.badRequest "Expected request with `Content-Type: application/json`")
  else if bodyLimit < r.body.utf8ByteSize then
    .error (.badRequest "Failed to buffer the request body: length limit exceeded")
  else
    match Json.readFirst? .whole r.body with
    | some (j, _) => .ok j.normal
    | none => .error (.badRequest "Failed to parse the request body as JSON")

namespace Server

/-- Says that the service runs. -/
def health : Response := .json 200 (.obj [("status", .str "healthy"), ("version", .str version)])

/-- Answers a filter request. -/
def filterQuery (s : FilterService) (now : Nat) (r : Request) : Response × FilterService :=
  match bodyOf r with
  | .error e => (e.response, s)
  | .ok body =>
    match FilterRequest.ofJson body with
    | .error cause => ((ApiError.ofQueryError (.badRequest cause)).response, s)
    | .ok request =>
      let (answer, s) := s.run now request
      match answer with
      | .error e => ((ApiError.ofQueryError e).response, s)
      | .ok found =>
        (.json 200 (.obj [("rows", rowsJson found.rows), ("fromCache", .bool found.fromCache)]), s)

/-- Shows the figures of the result cache. -/
def cacheStats (s : FilterService) : Response :=
  .json 200 (.obj [("success", .bool true), ("stats", statsJson s.results.stats)])

/-- Takes one entry out of the result cache. -/
def deleteEntry (s : FilterService) (key : String) : Response × FilterService :=
  let (deleted, results) := s.results.delete key
  let message := "Cache entry '" ++ key ++ (if deleted then "' deleted" else "' not found")
  (.json 200 (.obj [("success", .bool true), ("deleted", .bool deleted), ("message", .str message)]),
    { s with results })

/-- Empties the result cache. -/
def clearCache (s : FilterService) : Response × FilterService :=
  (.json 200 (.obj [("success", .bool true), ("message", .str "Cache cleared")]),
    { s with results := s.results.clear })

/-- Takes out the entry that the query names; all of them when it names none. A query may name one only. -/
def deleteFromCache (s : FilterService) (query : String) : Response × FilterService :=
  match ((queryPairs query).filter fun p => p.1 = "key").map (·.2) with
  | [] => clearCache s
  | [key] => if key = "" then clearCache s else deleteEntry s key
  | _ => (.plain 400 "Failed to deserialize query string: duplicate field `key`", s)

/-- Takes the expired entries out of the result cache. -/
def cleanCache (s : FilterService) (now : Nat) : Response × FilterService :=
  let (cleaned, results) := s.results.cleanExpired now
  (.json 200 (.obj [("success", .bool true), ("cleaned", natJson cleaned), ("stats", statsJson results.stats)]),
    { s with results })

/-- Looks up the columns of a table and the names of all tables. Both look-ups are made in any case; of two
failures the one of the columns counts. -/
def lookUpSchema (s : FilterService) (table : String) : Response × FilterService :=
  let ref := s.tableRef table
  let (columns, gateway) := Catalog.fetchColumns s.gateway ref
  let (tables, gateway) := Catalog.listTables gateway ref.project ref.dataset
  let s := { s with gateway }
  match columns, tables with
  | .error _, _ => (ApiError.hidden.response, s)
  | .ok _, .error _ => (ApiError.hidden.response, s)
  | .ok [], .ok _ => ((ApiError.ofSchemaError (.tableNotFound table)).response, s)
  | .ok columns, .ok tables =>
    (.json 200 (.obj [("table", .str table), ("columns", .arr (columns.map columnJson)),
      ("tables", .arr (tables.map .str))]), s)

/-- Shows the schema of a table. -/
def showSchema (s : FilterService) (table : String) : Response × FilterService :=
  match (s.tableRef table).firstInvalid? with
  | some part => ((ApiError.ofSchemaError (.invalidIdentifier part)).response, s)
  | none => lookUpSchema s table

/-- Takes the schema of a table out of the schema cache. -/
def forgetSchema (s : FilterService) (table : String) : Response × FilterService :=
  match (s.tableRef table).firstInvalid? with
  | some part => ((ApiError.ofSchemaError (.invalidIdentifier part)).response, s)
  | none =>
    let (invalidated, schemas) := s.schemas.invalidate (s.tableRef table)
    (.json 200 (.obj [("success", .bool true), ("invalidated", .bool invalidated)]), { s with schemas })

/-- The table that a part of the path names. -/
def withTable (s : FilterService) (part : String) (serve : String → Response × FilterService) :
    Response × FilterService :=
  match pathText? part with
  | some table => serve table
  | none => (.plain 400 "Invalid URL: Invalid UTF-8 in `table`", s)

/-- Serves a method of a route; none when the route does not have it. -/
def serve? (s : FilterService) (now : Nat) (r : Request) (query : String) (route : Route) (method : String) :
    Option (Response × FilterService) :=
  match route, method with
  | .health, "GET" => some (health, s)
  | .filterQuery, "POST" => some (filterQuery s now r)
  | .cacheStats, "GET" => some (cacheStats s, s)
  | .cache, "DELETE" => some (deleteFromCache s query)
  | .cacheClean, "POST" => some (cleanCache s now)
  | .schema part, "GET" => some (withTable s part (showSchema s))
  | .schema part, "DELETE" => some (withTable s part (forgetSchema s))
  | _, _ => none

/-- Serves a request on a route. `HEAD` is `GET` without the body. -/
def serveRoute (s : FilterService) (now : Nat) (r : Request) (query : String) (route : Route) :
    Response × FilterService :=
  let method := if r.method = "HEAD" then "GET" else r.method
  match serve? s now r query route method with
  | some (response, s) => (if r.method = "HEAD" then response.withoutBody else response, s)
  | none => ((Response.bare 405).withHeader "allow" route.allowed, s)

/-- The answer to a question for what callers may do: everything. -/
def preflight (route : Option Route) : Response :=
  let answer := ((Response.bare 200).withHeader "access-control-allow-methods" "*").withHeader
    "access-control-allow-headers" "*"
  match route with
  | some route => answer.withHeader "allow" route.allowed
  | none => answer

/-- Answers a request at a time. -/
def handle (s : FilterService) (now : Nat) (r : Request) : Response × FilterService :=
  let (path, query) := targetParts r.target
  let route := Route.ofPath? path
  let (response, s) :=
    if r.method = "OPTIONS" then (preflight route, s)
    else
      match route with
      | some route => serveRoute s now r query route
      | none => (Response.bare 404, s)
  (response.withHeader "access-control-allow-origin" "*", s)

end Server

end Audience.Http
