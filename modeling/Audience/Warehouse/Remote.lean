import Audience.Http.Message
import Audience.Http.Url
import Audience.Warehouse.Page
import Audience.Warehouse.Parameter

/-!
The warehouse behind an HTTP service. A statement is posted as a query; its result comes in pages, and while a
page announces another one, that one is asked for. The rows of all pages make the answer, in their order, read
with the fields of the first page. Anything else that a page brings is an error of the whole statement.

The replies of the service are given as a list, one to each request. A reply is what the client's sending ends in:
redirects have been followed by then, and what was sent on their way is not told. When the list runs out, the
connection is gone.
-/

namespace Audience

/-- Where the remote warehouse is and how it is asked. -/
structure RemoteWarehouse where
  /-- The project that queries run in. -/
  project : String := "segmento"
  /-- The dataset that holds the tables. -/
  dataset : String := "campanas"
  /-- The address of the service, without a slash at its end. -/
  endpoint : String := "https://bigquery.googleapis.com/bigquery/v2"
  /-- The token that requests carry. -/
  token : Option String := none
  /-- How long a request may take, in milliseconds. -/
  timeout : Nat := 30000
deriving DecidableEq, Repr

/-- The requests that were sent, oldest first, and what came of them. -/
structure Exchange where
  sent : List Http.Request
  result : Except WarehouseError (List Row)

namespace Exchange

/-- An exchange that failed before anything was sent. -/
def failed (e : WarehouseError) : Exchange := ⟨[], .error e⟩

/-- The exchange with a request in front of it. -/
def after (request : Http.Request) (x : Exchange) : Exchange := { x with sent := request :: x.sent }

/-- The exchange with rows in front of its own. -/
def withRows (rows : List Row) (x : Exchange) : Exchange := { x with result := x.result.map (rows ++ ·) }

end Exchange

namespace RemoteWarehouse

/-- No request could be made. -/
def unsendable : WarehouseError := .network "builder error"

/-- No reply came. -/
def unanswered : WarehouseError := .network "error sending request"

/-- The reply holds no page. -/
def unreadable : WarehouseError := .deserialization "error decoding response body"

/-- A character that a header may hold. -/
def isHeaderChar (c : Char) : Bool := c == '\t' || (0x20 ≤ c.toNat && c.toNat != 0x7F)

/-- The header that carries the token; no header without one, and none at all for a token that no header can
carry. Blanks at the end of a header are not part of it. -/
def authorization (w : RemoteWarehouse) : Option (List (String × String)) :=
  match w.token with
  | none => some []
  | some token =>
    if token.toList.all isHeaderChar then
      let value := ("Bearer " ++ token).toList.reverse.dropWhile fun c => c == ' ' || c == '\t'
      some [("authorization", String.ofList value.reverse)]
    else none

/-- The request that posts a statement. -/
def queryRequest (w : RemoteWarehouse) (s : Statement) : Option Http.Request := do
  let target ← Http.Url.target? (w.endpoint ++ "/projects/" ++ w.project ++ "/queries") []
  return {
    method := "POST"
    target := target
    headers := (← w.authorization) ++ [("content-type", "application/json")]
    body := String.ofList (QueryJob.ofStatement s w.timeout).toJson.written }

/-- The request for a further page. -/
def pageRequest (w : RemoteWarehouse) (token : String) (job : JobReference) : Option Http.Request := do
  let address := w.endpoint ++ "/projects/" ++ job.project ++ "/queries/" ++ job.job
  let location := job.location.toList.map fun l => ("location", l)
  let target ← Http.Url.target? address (("pageToken", token) :: location)
  return { method := "GET", target := target, headers := ← w.authorization, body := "" }

/-- The page in a reply, of which no more is read than a page has. -/
def pageOf (reply : Http.Response) : Except WarehouseError Page :=
  if !reply.isFinal then .error unanswered
  else if 200 ≤ reply.status ∧ reply.status < 300 then
    match Page.read? reply.content with
    | some page => .ok page
    | none => .error unreadable
  else .error (.remote reply.status reply.content)

/-- The rows of a page, read with the fields of the first one. -/
def rowsOf (fields : List Field) (page : Page) : Except WarehouseError (List Row) :=
  (Field.decodeRows fields page.rows).mapError fun cause => .deserialization cause.message

/-- The exchange that asks for the pages behind one. -/
def follow (w : RemoteWarehouse) (fields : List Field) (page : Page) (replies : List Http.Response) : Exchange :=
  match page.next? with
  | none => ⟨[], .ok []⟩
  | some (token, job) =>
    match w.pageRequest token job with
    | none => .failed unsendable
    | some request =>
      .after request <| match replies with
        | [] => .failed unanswered
        | reply :: replies =>
          match pageOf reply with
          | .error e => .failed e
          | .ok page =>
            match rowsOf fields page with
            | .error e => .failed e
            | .ok rows => (w.follow fields page replies).withRows rows

/-- The exchange behind the reply to a statement. The first page has to be that of a query that is done. -/
def readPages (w : RemoteWarehouse) (reply : Http.Response) (replies : List Http.Response) : Exchange :=
  match pageOf reply with
  | .error e => .failed e
  | .ok page =>
    if page.complete then
      match rowsOf page.fields page with
      | .error e => .failed e
      | .ok rows => (w.follow page.fields page replies).withRows rows
    else .failed .incomplete

/-- The exchange that a statement causes with these replies, redirects already followed. -/
def execute (w : RemoteWarehouse) (s : Statement) (replies : List Http.Response) : Exchange :=
  match w.queryRequest s with
  | none => .failed unsendable
  | some request =>
    .after request <| match replies with
      | [] => .failed unanswered
      | reply :: replies => w.readPages reply replies

end RemoteWarehouse

end Audience
