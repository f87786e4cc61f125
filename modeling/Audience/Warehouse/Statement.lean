import Audience.Data.Value

/-!
Statements for the warehouse: SQL text with named parameters, the answers to them, and the ways in which one
can fail. `Gateway` is a warehouse together with the statements sent to it so far, oldest first.
-/

namespace Audience

/-- The values bound to the names of a statement's parameters. -/
abbrev Params := NameMap Value

/-- A statement and its parameters. -/
structure Statement where
  sql : String
  params : Params
deriving DecidableEq

/-- Why a statement has no answer. -/
inductive WarehouseError where
  | network (reason : String)
  | remote (status : Nat) (reason : String)
  | deserialization (reason : String)
  | incomplete
deriving DecidableEq, Repr

/-- The message of each cause. -/
def WarehouseError.message : WarehouseError → String
  | network reason => s!"Network error: {reason}"
  | remote status reason => s!"Warehouse returned {status}: {reason}"
  | deserialization reason => s!"Deserialization error: {reason}"
  | incomplete => "Query did not complete within the request timeout"

/-- A warehouse as it stands: the answer to each statement. -/
abbrev Warehouse := Statement → Except WarehouseError (List Row)

/-- A warehouse and the statements sent to it, oldest first. -/
structure Gateway where
  answer : Warehouse
  sent : List Statement

namespace Gateway

/-- A gateway that nothing was sent through. -/
def new (answer : Warehouse) : Gateway := ⟨answer, []⟩

/-- Sends a statement. One that fails counts as sent too. -/
def send (g : Gateway) (s : Statement) : Except WarehouseError (List Row) × Gateway :=
  (g.answer s, { g with sent := g.sent ++ [s] })

@[simp] theorem send_sent (g : Gateway) (s : Statement) : (g.send s).2.sent = g.sent ++ [s] := rfl

@[simp] theorem send_answer (g : Gateway) (s : Statement) : (g.send s).2.answer = g.answer := rfl

end Gateway

end Audience
