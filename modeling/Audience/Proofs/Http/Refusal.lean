import Audience.Proofs.Http.Vetting

/-!
What a caller learns from a filter request that is not answered with rows. `Request.refusal` reads the error from the
request alone; a service whose project and dataset are identifiers answers with it or with status 200, whatever its
tables, its caches and its warehouse are (`Server.filterQuery_cases`). Servers in any two states then refuse a request in
the same words.
-/

namespace Audience

open TableRef (isIdentifier inProject inIdentifier)

/-- The project and the dataset are identifiers. -/
structure NamesDataset (project dataset : String) : Prop where
  project : isIdentifier inProject project = true
  dataset : isIdentifier inIdentifier dataset = true

namespace Http

namespace ApiError

/-- The error of a request for a table that has no rows to give. -/
def ofTable (table : String) : ApiError :=
  if isIdentifier inIdentifier table then hidden else badRequest (RequestError.invalidTable table).message

variable {table : String}

theorem ofTable_of_identifier (h : isIdentifier inIdentifier table = true) : ofTable table = hidden := if_pos h

theorem ofTable_cases (table : String) : ofTable table = hidden ∨ ∃ message, ofTable table = badRequest message := by
  unfold ofTable
  split
  · exact .inl rfl
  · exact .inr ⟨_, rfl⟩

end ApiError

/-- The error of a filter request that is not answered with rows. -/
def Request.refusal (r : Request) : ApiError :=
  match bodyOf r with
  | .error e => e
  | .ok body =>
    match FilterRequest.ofJson body with
    | .error cause => .badRequest cause.message
    | .ok q => .ofTable q.table

namespace Request

variable {r : Request} {body : Json} {q : FilterRequest} {e : ApiError}

theorem exists_badRequest_of_bodyOf (h : bodyOf r = .error e) : ∃ message, e = .badRequest message := by
  unfold bodyOf at h
  split at h
  · exact ⟨_, (Except.error.inj h).symm⟩
  · split at h
    · exact ⟨_, (Except.error.inj h).symm⟩
    · split at h
      · cases h
      · exact ⟨_, (Except.error.inj h).symm⟩

theorem refusal_of_identifier (hbody : bodyOf r = .ok body) (hrequest : FilterRequest.ofJson body = .ok q)
    (h : isIdentifier inIdentifier q.table = true) : r.refusal = .hidden := by
  simp only [refusal, hbody, hrequest, ApiError.ofTable_of_identifier h]

/-- A refusal tells what is wrong with the request, or nothing. -/
theorem refusal_cases (r : Request) : r.refusal = .hidden ∨ ∃ message, r.refusal = .badRequest message := by
  unfold refusal
  split
  · next e hbody => exact .inr (exists_badRequest_of_bodyOf hbody)
  · split
    · exact .inr ⟨_, rfl⟩
    · exact ApiError.ofTable_cases _

theorem refusal_of_status (h : r.refusal.status = 500) : r.refusal = .hidden := by
  rcases r.refusal_cases with hhidden | ⟨message, hbad⟩
  · exact hhidden
  · rw [hbad] at h
    cases h

end Request

end Http

namespace FilterService

variable {s : FilterService} {q : FilterRequest} {now : Nat} {e : FilterQueryError}

theorem firstInvalid?_tableRef (h : NamesDataset s.project s.dataset) (table : String) :
    (s.tableRef table).firstInvalid? = if isIdentifier inIdentifier table then none else some table := by
  have hproject := h.project
  have hdataset := h.dataset
  cases htable : isIdentifier inIdentifier table <;> simp [TableRef.firstInvalid?, TableRef.parts, tableRef, *]

theorem ofQueryError_statementFor {templates : QueryTemplates} {schema : TableSchema}
    (h : statementFor templates schema q = .error e) : Http.ApiError.ofQueryError e = .hidden := by
  unfold statementFor at h
  split at h
  · obtain rfl := Except.error.inj h
    rfl
  · cases h

theorem ofQueryError_prepare (hnames : NamesDataset s.project s.dataset) (h : (s.prepare q).1 = .error e) :
    Http.ApiError.ofQueryError e = .ofTable q.table := by
  have hprepared := s.prepared_prepare q
  generalize (s.prepare q).1 = answer, (s.prepare q).2 = after at hprepared h
  cases hprepared with
  | invalid part found =>
    obtain rfl := Except.error.inj h
    -- The part that is no identifier can only be the table.
    rw [firstInvalid?_tableRef hnames] at found
    split at found
    · cases found
    · next hno =>
      obtain rfl := Option.some.inj found
      exact (if_neg hno).symm
  | unavailable cause valid =>
    obtain rfl := Except.error.inj h
    exact (Http.ApiError.ofTable_of_identifier valid.table).symm
  | held schema valid | loaded schema valid =>
    exact (ofQueryError_statementFor h).trans (Http.ApiError.ofTable_of_identifier valid.table).symm

theorem ofQueryError_run (hnames : NamesDataset s.project s.dataset) (h : (s.run now q).1 = .error e) :
    Http.ApiError.ofQueryError e = .ofTable q.table := by
  have hanswered := s.answered_run q now
  generalize (s.run now q).1 = outcome, (s.run now q).2 = after at hanswered h
  cases hanswered with
  | held | fetched => cases h
  | refused cause miss prepared =>
    obtain rfl := Except.error.inj h
    exact ofQueryError_prepare hnames prepared
  | failed statement cause miss prepared =>
    obtain rfl := Except.error.inj h
    exact (Http.ApiError.ofTable_of_identifier (prepare_eq_ok_iff.mp prepared).valid.table).symm

end FilterService

namespace Http.Server

variable {s : FilterService} {now : Nat} {r : Request}

/-- A filter request is answered with rows or with its refusal. -/
theorem filterQuery_cases (hnames : NamesDataset s.project s.dataset) :
    (filterQuery s now r).1.status = 200 ∨ (filterQuery s now r).1 = r.refusal.response := by
  cases hbody : bodyOf r with
  | error e => exact .inr (by simp only [filterQuery, Request.refusal, hbody])
  | ok body =>
    cases hrequest : FilterRequest.ofJson body with
    | error cause =>
      exact .inr (by simp only [filterQuery, Request.refusal, hbody, hrequest, ApiError.ofQueryError])
    | ok q =>
      cases hrun : (s.run now q).1 with
      | error e =>
        have herror := FilterService.ofQueryError_run hnames hrun
        exact .inr (by simp only [filterQuery, Request.refusal, hbody, hrequest, hrun, herror])
      | ok found => exact .inl (by simp only [filterQuery, hbody, hrequest, hrun, Response.json])

theorem handle_filterQuery (hmethod : r.method = "POST")
    (hroute : Route.ofPath? (targetParts r.target).1 = some .filterQuery) :
    (handle s now r).1 = (filterQuery s now r).1.withHeader "access-control-allow-origin" "*" := by
  simp [handle, serveRoute, serve?, hmethod, hroute]

theorem handle_cases (hnames : NamesDataset s.project s.dataset) (hmethod : r.method = "POST")
    (hroute : Route.ofPath? (targetParts r.target).1 = some .filterQuery) :
    (handle s now r).1.status = 200 ∨
      (handle s now r).1 = r.refusal.response.withHeader "access-control-allow-origin" "*" := by
  rw [handle_filterQuery hmethod hroute]
  exact (filterQuery_cases hnames).imp id fun hrefused => by rw [hrefused]

theorem refused_or_ok (settings : Settings) (warehouse : Warehouse) (now : Nat) (es : List ServerEvent)
    (hnames : NamesDataset settings.warehouse.project settings.warehouse.dataset) (hmethod : r.method = "POST")
    (hroute : Route.ofPath? (targetParts r.target).1 = some .filterQuery) {response : Response}
    (hreply : (step (Run.after step (launch settings warehouse now) es) (.request r)).1 = some response) :
    response.status = 200 ∨ response = r.refusal.response.withHeader "access-control-allow-origin" "*" := by
  have hkept := kept_run settings warehouse now es
  rw [← hkept.project, ← hkept.dataset] at hnames
  obtain rfl := Option.some.inj hreply
  exact handle_cases hnames hmethod hroute

/-- Two servers that refuse a filter request refuse it alike, whatever happened to them, to their warehouses and their
caches. A failure behind the service has one body. A body that describes a request for a table whose name is an
identifier is answered with status 200 or 500. -/
theorem refused_alike (settings settings' : Settings) (warehouse warehouse' : Warehouse) (now now' : Nat)
    (es es' : List ServerEvent) {r : Request} {response response' : Response}
    (hnames : NamesDataset settings.warehouse.project settings.warehouse.dataset)
    (hnames' : NamesDataset settings'.warehouse.project settings'.warehouse.dataset)
    (hmethod : r.method = "POST") (hroute : Route.ofPath? (targetParts r.target).1 = some .filterQuery)
    (hreply : (step (Run.after step (launch settings warehouse now) es) (.request r)).1 = some response)
    (hreply' : (step (Run.after step (launch settings' warehouse' now') es') (.request r)).1 = some response') :
    (response.status ≠ 200 → response'.status ≠ 200 → response = response') ∧
      (response.status = 500 → response.body = "\x7b\"error\":\"Error executing filter query\"\x7d") ∧
      ∀ body q, bodyOf r = .ok body → FilterRequest.ofJson body = .ok q →
        isIdentifier inIdentifier q.table = true → response.status = 200 ∨ response.status = 500 := by
  have hcases := refused_or_ok settings warehouse now es hnames hmethod hroute hreply
  have hcases' := refused_or_ok settings' warehouse' now' es' hnames' hmethod hroute hreply'
  refine ⟨fun hne hne' => ?_, fun hstatus => ?_, fun body q hbody hrequest htable => ?_⟩
  · exact (hcases.resolve_left hne).trans (hcases'.resolve_left hne').symm
  · obtain rfl := hcases.resolve_left (by omega)
    have hhidden : r.refusal = .hidden := Request.refusal_of_status hstatus
    rw [hhidden]
    decide +kernel
  · refine hcases.imp id fun hrefused => ?_
    rw [hrefused, Request.refusal_of_identifier hbody hrequest htable]
    rfl

/-- The warehouse of one server does not answer; that of the other does by now, and its table has no column `edad`. Both
answer with status 500, and neither says which it was. -/
theorem refused_alike_without_answer_or_column :
    let r : Request := ⟨"POST", "/filters/query", [("content-type", "application/json")],
      "\x7b\"table\": \"t\", \"filters\": [\x7b\"column\": \"edad\", \"value\": \"30\"\x7d]\x7d"⟩
    let failing := launch {} (fun _ => .error .incomplete) 0
    let answering := launch { warehouse := { project := "p-1", dataset := "d" } } (fun _ => .error .incomplete) 5
    let events : List ServerEvent :=
      [.change fun _ => .ok [.ofList [("column_name", .string "ciudad"), ("data_type", .string "STRING")]], .advance 10]
    ∃ response, response.status = 500 ∧ (step failing (.request r)).1 = some response ∧
      (step (Run.after step answering events) (.request r)).1 = some response := by
  intro r failing answering events
  have hstatus : (step failing (.request r)).1.map Response.status = some 500 := by decide +kernel +revert
  have hstatus' : (step (Run.after step answering events) (.request r)).1.map Response.status = some 500 := by
    decide +kernel +revert
  obtain ⟨response, hreply, hfailed⟩ := Option.map_eq_some_iff.mp hstatus
  obtain ⟨response', hreply', hfailed'⟩ := Option.map_eq_some_iff.mp hstatus'
  obtain ⟨halike, -⟩ := refused_alike {} { warehouse := { project := "p-1", dataset := "d" } } _ _ 0 5 [] events
    ⟨by decide, by decide⟩ ⟨by decide, by decide⟩ rfl (by decide +kernel) hreply hreply'
  obtain rfl := halike (by omega) (by omega)
  exact ⟨response, hfailed, hreply, hreply'⟩

end Http.Server

end Audience
