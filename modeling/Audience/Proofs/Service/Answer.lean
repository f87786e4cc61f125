import Audience.Proofs.Catalog.Lookup
import Audience.Proofs.Results.Operation
import Audience.Service.FilterService

/-!
The ways in which a request is answered. `FilterService.Answered` has one case for each end of the pipeline,
with the answer and the state that it leaves; `answered_run` says that every run is one of them. Later proofs
take a run apart by these cases and do not open the pipeline.
-/

namespace Audience

namespace FilterService

variable (s : FilterService) (r : FilterRequest) (now : Nat)

@[simp] theorem prepare_results : (s.prepare r).2.results = s.results := by
  unfold prepare
  split
  split <;> rfl

@[simp] theorem prepare_answer : (s.prepare r).2.gateway.answer = s.gateway.answer := by
  have h := s.schemas.get_answer s.gateway (s.tableRef r.table)
  unfold prepare
  split
  next heq =>
  rw [heq] at h
  split <;> exact h

/-- The cache of results has no part in making a statement. -/
theorem prepare_with_results (c : ResultCache) :
    { s with results := c }.prepare r = ((s.prepare r).1, { (s.prepare r).2 with results := c }) := by
  rcases hget : s.schemas.get s.gateway (s.tableRef r.table) with ⟨schema, schemas, gateway⟩
  have hget' : { s with results := c }.schemas.get { s with results := c }.gateway
      ({ s with results := c }.tableRef r.table) = (schema, schemas, gateway) := hget
  unfold prepare
  rw [hget, hget']
  cases schema <;> rfl

theorem execute_of_error {statement : Statement} {cause : WarehouseError}
    (h : s.gateway.answer statement = .error cause) :
    s.execute now r statement =
      (.error (.execution r.table cause), { s with gateway := (s.gateway.send statement).2 }) := by
  simp only [execute, Gateway.send, h]

theorem execute_of_ok {statement : Statement} {rows : List Row} (h : s.gateway.answer statement = .ok rows) :
    s.execute now r statement =
      (.ok ⟨rows, false⟩,
        { s with gateway := (s.gateway.send statement).2, results := s.results.put r.key rows now }) := by
  simp only [execute, Gateway.send, h]

/-! ### The ends of the pipeline -/

/-- An answer to a request at a time, and the service after it. -/
inductive Answered : Except FilterQueryError FilterOutcome → FilterService → Prop
  /-- The rows are held. -/
  | held (rows : List Row) (hit : s.results.find? r.key now = some rows) :
      Answered (.ok ⟨rows, true⟩) { s with results := (s.results.get r.key now).2 }
  /-- There is no statement for the request. -/
  | refused (e : FilterQueryError) (miss : s.results.find? r.key now = none) (prepared : (s.prepare r).1 = .error e) :
      Answered (.error e) { (s.prepare r).2 with results := (s.results.get r.key now).2 }
  /-- The statement has no answer. -/
  | failed (statement : Statement) (cause : WarehouseError) (miss : s.results.find? r.key now = none)
      (prepared : (s.prepare r).1 = .ok statement) (answer : s.gateway.answer statement = .error cause) :
      Answered (.error (.execution r.table cause))
        { (s.prepare r).2 with
          results := (s.results.get r.key now).2
          gateway := ((s.prepare r).2.gateway.send statement).2 }
  /-- The statement is answered and its rows are stored. -/
  | fetched (statement : Statement) (rows : List Row) (miss : s.results.find? r.key now = none)
      (prepared : (s.prepare r).1 = .ok statement) (answer : s.gateway.answer statement = .ok rows) :
      Answered (.ok ⟨rows, false⟩)
        { (s.prepare r).2 with
          results := (s.results.get r.key now).2.put r.key rows now
          gateway := ((s.prepare r).2.gateway.send statement).2 }

theorem answered_run : Answered s r now (s.run now r).1 (s.run now r).2 := by
  have hget := s.results.get_fst r.key now
  unfold run
  cases hfind : s.results.find? r.key now with
  | some rows =>
    rw [hfind] at hget
    simp only [hget]
    exact .held rows hfind
  | none =>
    rw [hfind] at hget
    simp only [hget, prepare_with_results]
    cases hprepared : (s.prepare r).1 with
    | error e => exact .refused e hfind hprepared
    | ok statement =>
      let waiting : FilterService := { (s.prepare r).2 with results := (s.results.get r.key now).2 }
      have hsame : waiting.gateway.answer = s.gateway.answer := s.prepare_answer r
      cases hanswer : s.gateway.answer statement with
      | error cause =>
        have hexecute := waiting.execute_of_error r now ((congrFun hsame statement).trans hanswer)
        simp only [waiting] at hexecute
        simp only [hexecute]
        exact .failed statement cause hfind hprepared hanswer
      | ok rows =>
        have hexecute := waiting.execute_of_ok r now ((congrFun hsame statement).trans hanswer)
        simp only [waiting] at hexecute
        simp only [hexecute]
        exact .fetched statement rows hfind hprepared hanswer

end FilterService

end Audience
