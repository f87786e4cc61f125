import Audience.Proofs.Http.Refusal

/-!
Who is blamed for a bad request. A request is called bad where its table has no full name, and the name that is quoted is
the first part that is no identifier (`FilterService.run_eq_badRequest_iff`). That part is the request's own where the
project and the dataset are identifiers, and only there: under any other configuration the service blames every request
that it holds no rows for (`FilterService.blames_request_iff`).
-/

namespace Audience

open TableRef (isIdentifier inProject inIdentifier)

namespace Http.Request

variable {r : Request}

/-- A request that gives no reason for a refusal describes a filter request for a table. -/
theorem exists_request_of_refusal (h : r.refusal = .hidden) :
    ∃ body q, bodyOf r = .ok body ∧ FilterRequest.ofJson body = .ok q ∧ isIdentifier inIdentifier q.table = true := by
  unfold refusal at h
  split at h
  · next e hbody =>
    obtain ⟨message, rfl⟩ := exists_badRequest_of_bodyOf hbody
    cases h
  · next body hbody =>
    split at h
    · cases h
    · next q hrequest =>
      unfold ApiError.ofTable at h
      split at h
      · next htable => exact ⟨body, q, hbody, hrequest, htable⟩
      · cases h

end Http.Request

namespace TableRef

variable {t : TableRef} {part : String}

/-- In front of the table stand the project and the dataset. -/
theorem firstInvalid?_of_not_namesDataset (h : ¬NamesDataset t.project t.dataset) :
    ∃ part, (part = t.project ∨ part = t.dataset) ∧ t.firstInvalid? = some part := by
  cases hproject : isIdentifier inProject t.project with
  | false => exact ⟨t.project, .inl rfl, by simp [firstInvalid?, parts, hproject]⟩
  | true =>
    cases hdataset : isIdentifier inIdentifier t.dataset with
    | false => exact ⟨t.dataset, .inr rfl, by simp [firstInvalid?, parts, hproject, hdataset]⟩
    | true => exact absurd ⟨hproject, hdataset⟩ h

end TableRef

namespace FilterService

variable {s : FilterService} {q : FilterRequest} {now : Nat} {part : String} {cause : RequestError}

theorem prepare_of_firstInvalid? (h : (s.tableRef q.table).firstInvalid? = some part) :
    (s.prepare q).1 = .error (.badRequest (.invalidTable part)) := by
  simp only [prepare, SchemaCache.get_of_invalid _ _ h, schemaError]

theorem firstInvalid?_of_prepare (h : (s.prepare q).1 = .error (.badRequest cause)) :
    ∃ part, (s.tableRef q.table).firstInvalid? = some part ∧ cause = .invalidTable part := by
  have hprepared := s.prepared_prepare q
  generalize (s.prepare q).1 = answer, (s.prepare q).2 = after at hprepared h
  cases hprepared with
  | invalid part found =>
    cases h
    exact ⟨part, found, rfl⟩
  | unavailable => cases h
  | held | loaded => cases ofQueryError_statementFor h

/-- A request is bad where no rows are held for it and its table has no full name. -/
theorem run_eq_badRequest_iff :
    (s.run now q).1 = .error (.badRequest cause) ↔
      s.results.find? q.key now = none ∧
        ∃ part, (s.tableRef q.table).firstInvalid? = some part ∧ cause = .invalidTable part := by
  have hanswered := s.answered_run q now
  generalize (s.run now q).1 = outcome, (s.run now q).2 = after at hanswered ⊢
  constructor
  · rintro rfl
    cases hanswered with
    | refused _ miss prepared => exact ⟨miss, firstInvalid?_of_prepare prepared⟩
  · rintro ⟨miss, part, found, rfl⟩
    have hprepare := prepare_of_firstInvalid? found
    cases hanswered with
    | held rows hit => cases miss.symm.trans hit
    | refused e _ prepared => rw [Except.error.inj (hprepare.symm.trans prepared)]
    -- The other ends have a statement, and there is none for a table without a full name.
    | failed _ _ _ prepared | fetched _ _ _ prepared => cases hprepare.symm.trans prepared

theorem run_of_not_namesDataset (hnames : ¬NamesDataset s.project s.dataset) (hmiss : s.results.find? q.key now = none) :
    ∃ part, (part = s.project ∨ part = s.dataset) ∧ (s.run now q).1 = .error (.badRequest (.invalidTable part)) := by
  obtain ⟨part, hpart, found⟩ := TableRef.firstInvalid?_of_not_namesDataset (t := s.tableRef q.table) hnames
  exact ⟨part, hpart, run_eq_badRequest_iff.mpr ⟨hmiss, part, found, rfl⟩⟩

theorem table_of_run (hnames : NamesDataset s.project s.dataset) (h : (s.run now q).1 = .error (.badRequest cause)) :
    isIdentifier inIdentifier q.table = false ∧ cause = .invalidTable q.table := by
  obtain ⟨-, part, found, rfl⟩ := run_eq_badRequest_iff.mp h
  rw [firstInvalid?_tableRef hnames] at found
  split at found
  · cases found
  · next htable =>
    obtain rfl := Option.some.inj found
    exact ⟨Bool.eq_false_iff.mpr htable, rfl⟩

end FilterService

namespace Http.Server

variable {s : FilterService} {now : Nat} {r : Request}

/-- A service under another configuration refuses what nobody would refuse from the request alone. -/
theorem status_of_not_namesDataset (hnames : ¬NamesDataset s.project s.dataset) (hmethod : r.method = "POST")
    (hroute : Route.ofPath? (targetParts r.target).1 = some .filterQuery) (hrefusal : r.refusal = .hidden)
    (hempty : s.results.entries = ∅) : (handle s now r).1.status = 400 := by
  obtain ⟨body, q, hbody, hrequest, -⟩ := Request.exists_request_of_refusal hrefusal
  have hmiss : s.results.find? q.key now = none := by
    rw [ResultCache.find?, hempty]
    rfl
  obtain ⟨part, -, hrun⟩ := FilterService.run_of_not_namesDataset hnames hmiss
  rw [handle_filterQuery hmethod hroute]
  simp only [filterQuery, hbody, hrequest, hrun]
  rfl

/-- A service that has done nothing yet under a configuration. -/
def idle (project dataset : String) : FilterService := .new project dataset {} (.new 0 0) fun _ => .error .incomplete

def plainRequest : Request :=
  ⟨"POST", "/filters/query", [("content-type", "application/json")], "\x7b\"table\": \"t\", \"filters\": []\x7d"⟩

theorem namesDataset_of_run {project dataset : String}
    (h : ∀ (s : FilterService) (now : Nat) (q : FilterRequest) (cause : RequestError),
      s.project = project → s.dataset = dataset → (s.run now q).1 = .error (.badRequest cause) →
        isIdentifier inIdentifier q.table = false) : NamesDataset project dataset := by
  by_contra hnames
  have hmiss : ∀ key, (idle project dataset).results.find? key 0 = none := fun _ => rfl
  obtain ⟨part, -, hrun⟩ := FilterService.run_of_not_namesDataset (s := idle project dataset) hnames
    (hmiss (FilterRequest.key ⟨"t", [], .unspecified, .standard⟩))
  have htable := h (idle project dataset) 0 _ _ rfl rfl hrun
  cases htable

theorem namesDataset_of_handle {project dataset : String}
    (h : ∀ (s : FilterService) (now : Nat) (r : Request),
      s.project = project → s.dataset = dataset → r.method = "POST" →
        Route.ofPath? (targetParts r.target).1 = some .filterQuery →
          (handle s now r).1.status = 400 → r.refusal.status = 400) : NamesDataset project dataset := by
  by_contra hnames
  have hroute : Route.ofPath? (targetParts plainRequest.target).1 = some .filterQuery := by decide +kernel
  have hrefusal : plainRequest.refusal = .hidden := by decide +kernel
  have hstatus : (handle (idle project dataset) 0 plainRequest).1.status = 400 :=
    status_of_not_namesDataset hnames rfl hroute hrefusal rfl
  have hblamed := h (idle project dataset) 0 plainRequest rfl rfl rfl hroute hstatus
  rw [hrefusal] at hblamed
  cases hblamed

/-- The configuration is kept out of the blame exactly where the project and the dataset are identifiers. Otherwise every
request without held rows is called bad, and what is quoted as its table is the project or the dataset. -/
theorem blames_request_iff (project dataset : String) :
    (NamesDataset project dataset ↔
      ∀ (s : FilterService) (now : Nat) (q : FilterRequest) (cause : RequestError),
        s.project = project → s.dataset = dataset → (s.run now q).1 = .error (.badRequest cause) →
          isIdentifier inIdentifier q.table = false ∧ cause = .invalidTable q.table) ∧
    (NamesDataset project dataset ↔
      ∀ (s : FilterService) (now : Nat) (r : Request),
        s.project = project → s.dataset = dataset → r.method = "POST" →
          Route.ofPath? (targetParts r.target).1 = some .filterQuery →
            (handle s now r).1.status = 400 → r.refusal.status = 400) ∧
    (¬NamesDataset project dataset →
      ∀ (s : FilterService) (now : Nat) (q : FilterRequest),
        s.project = project → s.dataset = dataset → s.results.find? q.key now = none →
          ∃ part, (part = project ∨ part = dataset) ∧ (s.run now q).1 = .error (.badRequest (.invalidTable part))) := by
  refine ⟨⟨?_, fun hkept => namesDataset_of_run fun s now q cause hproject hdataset hrun =>
    (hkept s now q cause hproject hdataset hrun).1⟩, ⟨?_, namesDataset_of_handle⟩, ?_⟩
  · rintro hnames s now q cause rfl rfl hrun
    exact FilterService.table_of_run hnames hrun
  · rintro hnames s now r rfl rfl hmethod hroute hstatus
    have hcases : (handle s now r).1.status = 200 ∨ _ := handle_cases hnames hmethod hroute
    rcases hcases with hok | hrefused
    · omega
    · rw [hrefused] at hstatus
      exact hstatus
  · rintro hnames s now q rfl rfl hmiss
    exact FilterService.run_of_not_namesDataset hnames hmiss

/-- A project that starts with a digit is blamed on a request for a table whose name is an identifier. -/
theorem misnamed_project_blames_request :
    isIdentifier inIdentifier "clientes" = true ∧
      ((idle "1malo" "campanas").run 0 ⟨"clientes", [], .unspecified, .standard⟩).1 =
        .error (.badRequest (.invalidTable "1malo")) ∧
      ¬∀ (s : FilterService) (now : Nat) (q : FilterRequest) (cause : RequestError),
        (s.run now q).1 = .error (.badRequest cause) →
          isIdentifier inIdentifier q.table = false ∧ cause = .invalidTable q.table := by
  have hrun : ((idle "1malo" "campanas").run 0 ⟨"clientes", [], .unspecified, .standard⟩).1 =
      .error (.badRequest (.invalidTable "1malo")) := FilterService.run_eq_badRequest_iff.mpr ⟨rfl, "1malo", rfl, rfl⟩
  refine ⟨rfl, hrun, fun hkept => ?_⟩
  obtain ⟨htable, -⟩ := hkept _ _ _ _ hrun
  cases htable

end Http.Server

end Audience
