import Audience.Json.Printer

/-!
Requests and responses. A request has a method, a target, headers and a body; header names are compared
without regard to case. A response's headers stand in the order in which they were added.
-/

namespace Audience.Http

/-- A request. Its body is a text, so one whose bytes are no UTF-8 cannot be written down. -/
structure Request where
  method : String
  target : String
  headers : List (String × String)
  body : String
deriving DecidableEq, Repr

/-- A response. Its body is a text, as that of a request is. -/
structure Response where
  status : Nat
  headers : List (String × String)
  body : String
deriving DecidableEq, Repr

/-- The first value of a header. -/
def Request.header? (r : Request) (name : String) : Option String :=
  (r.headers.find? fun h => h.1.toLower == name).map (·.2)

namespace Response

/-- A response without a body. -/
def bare (status : Nat) : Response := ⟨status, [], ""⟩

/-- A response with a JSON body. -/
def json (status : Nat) (body : Json) : Response := ⟨status, [("content-type", "application/json")], body.text⟩

/-- A response with a text. -/
def plain (status : Nat) (body : String) : Response :=
  ⟨status, [("content-type", "text/plain; charset=utf-8")], body⟩

/-- The response with one more header. -/
def withHeader (r : Response) (name value : String) : Response :=
  { r with headers := r.headers ++ [(name, value)] }

/-- The response without its body. -/
def withoutBody (r : Response) : Response := { r with body := "" }

/-- The response ends the exchange. One that only announces another, or whose status is none, does not. -/
def isFinal (r : Response) : Bool := r.status == 101 || (200 ≤ r.status && r.status ≤ 999)

/-- The body as it arrives. With some statuses none does. -/
def content (r : Response) : String := if r.status ∈ [101, 204, 304] then "" else r.body

/-- The first value of a header. -/
def header? (r : Response) (name : String) : Option String := r.headers.lookup name

end Response

end Audience.Http
