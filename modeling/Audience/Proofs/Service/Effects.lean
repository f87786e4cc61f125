import Audience.Proofs.Catalog.Lookup
import Audience.Proofs.Service.Answer

/-!
What answering a request does to the service. `FilterService.Prepared` has one case for each end of making a
statement, as `Answered` has for the whole. `FilterService.Accounted` says by what is held for a request where its rows
come from, and what is stored, counted and sent; `run_accounted` says that every run keeps this account: an error
stores no rows, rows that are held leave all but a counter alone, and rows from the warehouse are stored once.
-/

namespace Audience

/-- The request came as far as a schema of its table. -/
def FilterQueryError.HadSchema : FilterQueryError → Prop
  | .compile .. => True
  | .execution .. => True
  | _ => False

namespace FilterService

variable {s : FilterService} {r : FilterRequest} {now : Nat}

/-! ### Making a statement -/

/-- The statement that is made for a request, or why there is none, and the service after it. -/
inductive Prepared (s : FilterService) (r : FilterRequest) : Except FilterQueryError Statement → FilterService → Prop
  /-- The table is no identifier. -/
  | invalid (part : String) (found : (s.tableRef r.table).firstInvalid? = some part) :
      Prepared s r (.error (.badRequest (.invalidTable part))) s
  /-- The catalog has no schema for the table. -/
  | unavailable (cause : SchemaError) (valid : (s.tableRef r.table).Valid)
      (missing : s.schemas.find? (s.tableRef r.table) = none)
      (answer : TableSchema.inCatalog s.gateway.answer (s.tableRef r.table) = .error cause) :
      Prepared s r (.error (.schemaUnavailable cause))
        { s with
          schemas := { s.schemas with loads := s.schemas.loads + 1 }
          gateway := (s.gateway.send (Catalog.columnsStatement (s.tableRef r.table))).2 }
  /-- The filters are compiled against the schema that is held. -/
  | held (schema : TableSchema) (valid : (s.tableRef r.table).Valid)
      (found : s.schemas.find? (s.tableRef r.table) = some schema) :
      Prepared s r (statementFor s.templates schema r) s
  /-- The filters are compiled against the schema of the catalog, which is kept. -/
  | loaded (schema : TableSchema) (valid : (s.tableRef r.table).Valid)
      (missing : s.schemas.find? (s.tableRef r.table) = none)
      (answer : TableSchema.inCatalog s.gateway.answer (s.tableRef r.table) = .ok schema) :
      Prepared s r (statementFor s.templates schema r)
        { s with
          schemas := { s.schemas with loads := s.schemas.loads + 1 }.store schema
          gateway := (s.gateway.send (Catalog.columnsStatement (s.tableRef r.table))).2 }

theorem prepared_prepare (s : FilterService) (r : FilterRequest) :
    s.Prepared r (s.prepare r).1 (s.prepare r).2 := by
  have hlookup := s.schemas.lookedUp_get s.gateway (s.tableRef r.table)
  unfold prepare
  generalize s.schemas.get s.gateway (s.tableRef r.table) = found at hlookup
  obtain ⟨answer, schemas, gateway⟩ := found
  cases hlookup with
  | invalid part found => exact .invalid part found
  | held schema valid found => exact .held schema valid found
  | loaded schema valid missing answer => exact .loaded schema valid missing answer
  | failed cause valid missing answer =>
    have hcause : schemaError cause = .schemaUnavailable cause := by
      cases cause with
      | invalidIdentifier name => exact absurd rfl (TableSchema.ne_invalidIdentifier_of_inCatalog answer name)
      | _ => rfl
    simp only [hcause]
    exact .unavailable cause valid missing answer

/-- A request for a valid table gets this schema: the one that is held, or else the one in the catalog. -/
structure Obtains (s : FilterService) (r : FilterRequest) (schema : TableSchema) : Prop where
  valid : (s.tableRef r.table).Valid
  source : s.schemas.find? (s.tableRef r.table) = some schema ∨
    s.schemas.find? (s.tableRef r.table) = none ∧
      TableSchema.inCatalog s.gateway.answer (s.tableRef r.table) = .ok schema

/-- The data statement of a request: its filters compile against its schema, and this is the text with the values
bound. -/
def Makes (s : FilterService) (r : FilterRequest) (statement : Statement) : Prop :=
  ∃ schema compiled, s.Obtains r schema ∧ compile schema.columns r.filters r.campaign = .ok compiled ∧
    statement = ⟨s.templates.sql (s.tableRef r.table) compiled.whereText r.campaign r.mode, compiled.params⟩

theorem Obtains.ref {schema : TableSchema} (h : s.Obtains r schema) : schema.ref = s.tableRef r.table := by
  rcases h.source with found | ⟨-, answer⟩
  · exact SchemaCache.ref_of_find? found
  · exact TableSchema.ref_of_inCatalog answer

theorem Obtains.unique {schema other : TableSchema} (h : s.Obtains r schema) (h' : s.Obtains r other) :
    schema = other := by
  rcases h.source with found | ⟨missing, answer⟩ <;> rcases h'.source with found' | ⟨missing', answer'⟩
  · exact Option.some.inj (found.symm.trans found')
  · exact absurd (found.symm.trans missing') (by simp)
  · exact absurd (found'.symm.trans missing) (by simp)
  · exact Except.ok.inj (answer.symm.trans answer')

theorem statementFor_eq_ok_iff {schema : TableSchema} {statement : Statement} (h : s.Obtains r schema) :
    statementFor s.templates schema r = .ok statement ↔ s.Makes r statement := by
  have hmakes : s.Makes r statement ↔ ∃ compiled, compile schema.columns r.filters r.campaign = .ok compiled ∧
      statement = s.templates.statement schema.ref compiled r.campaign r.mode := by
    rw [h.ref]
    constructor
    · rintro ⟨other, compiled, hother, hcompile, rfl⟩
      obtain rfl := h.unique hother
      exact ⟨compiled, hcompile, rfl⟩
    · rintro ⟨compiled, hcompile, rfl⟩
      exact ⟨schema, compiled, h, hcompile, rfl⟩
  rw [hmakes, statementFor]
  cases compile schema.columns r.filters r.campaign <;> simp [eq_comm]

variable {answer : Except FilterQueryError Statement} {after : FilterService}

theorem Prepared.eq_ok_iff {statement : Statement} (h : s.Prepared r answer after) :
    answer = .ok statement ↔ s.Makes r statement := by
  cases h with
  | invalid part found =>
    refine ⟨nofun, ?_⟩
    rintro ⟨schema, compiled, hobtains, -⟩
    exact absurd (found.symm.trans hobtains.valid) (by simp)
  | unavailable cause valid missing answer =>
    refine ⟨nofun, ?_⟩
    rintro ⟨schema, compiled, ⟨-, found | ⟨-, answer'⟩⟩, -⟩
    · exact absurd (found.symm.trans missing) (by simp)
    · exact absurd (answer.symm.trans answer') (by simp)
  | held schema valid found => exact statementFor_eq_ok_iff ⟨valid, .inl found⟩
  | loaded schema valid missing answer => exact statementFor_eq_ok_iff ⟨valid, .inr ⟨missing, answer⟩⟩

theorem prepare_eq_ok_iff {statement : Statement} : (s.prepare r).1 = .ok statement ↔ s.Makes r statement :=
  (s.prepared_prepare r).eq_ok_iff

/-! ### What making a statement leaves behind -/

/-- The look-up in the catalog for a table without a schema. -/
def catalogLookup (s : FilterService) (t : TableRef) : List Statement :=
  if s.schemas.contains t then [] else [Catalog.columnsStatement t]

theorem catalogLookup_of_held {t : TableRef} {schema : TableSchema} (h : s.schemas.find? t = some schema) :
    s.catalogLookup t = [] := by
  simp [catalogLookup, SchemaCache.contains, h]

theorem catalogLookup_of_missing {t : TableRef} (h : s.schemas.find? t = none) :
    s.catalogLookup t = [Catalog.columnsStatement t] := by
  simp [catalogLookup, SchemaCache.contains, h]

namespace Prepared

theorem fixed (h : s.Prepared r answer after) :
    after.project = s.project ∧ after.dataset = s.dataset ∧ after.templates = s.templates ∧
      after.gateway.answer = s.gateway.answer := by
  cases h <;> exact ⟨rfl, rfl, rfl, rfl⟩

theorem of_not_valid (h : s.Prepared r answer after) (hinvalid : ¬(s.tableRef r.table).Valid) : after = s := by
  cases h with
  | invalid => rfl
  | unavailable _ valid | held _ valid | loaded _ valid => exact absurd valid hinvalid

/-- A valid table costs a look-up in the catalog, counted as a load, when no schema is held for it. -/
theorem sent_of_valid (h : s.Prepared r answer after) (hvalid : (s.tableRef r.table).Valid) :
    after.gateway.sent = s.gateway.sent ++ s.catalogLookup (s.tableRef r.table) ∧
      after.schemas.loads = s.schemas.loads + (s.catalogLookup (s.tableRef r.table)).length := by
  cases h with
  | invalid part found => exact absurd (hvalid.symm.trans found) (by simp)
  | held schema _ found => simp [catalogLookup_of_held found]
  | unavailable _ _ missing | loaded _ _ missing =>
    rw [catalogLookup_of_missing missing]
    exact ⟨rfl, rfl⟩

/-- Nothing but the look-up for a valid table is sent. -/
theorem sent (h : s.Prepared r answer after) : ∃ lookups,
    after.gateway.sent = s.gateway.sent ++ lookups ∧ ∀ statement ∈ lookups,
      (s.tableRef r.table).Valid ∧ statement = Catalog.columnsStatement (s.tableRef r.table) := by
  cases h with
  | invalid | held => exact ⟨[], (List.append_nil _).symm, List.forall_mem_nil _⟩
  | unavailable _ valid | loaded _ valid =>
    exact ⟨_, rfl, fun statement hmem => ⟨valid, List.mem_singleton.mp hmem⟩⟩

/-- A schema that is held afterwards was held before, and then its table was not loaded, or it was loaded. -/
theorem find?_cases (h : s.Prepared r answer after) {t : TableRef} {schema : TableSchema}
    (hfind : after.schemas.find? t = some schema) :
    (s.schemas.find? t = some schema ∧ (s.tableRef r.table = t → after.schemas.loads = s.schemas.loads)) ∨
      (s.tableRef r.table = t ∧ s.schemas.loads < after.schemas.loads ∧
        TableSchema.inCatalog s.gateway.answer t = .ok schema) := by
  cases h with
  | invalid | held => exact .inl ⟨hfind, fun _ => rfl⟩
  | unavailable _ _ missing =>
    refine .inl ⟨hfind, ?_⟩
    rintro rfl
    exact absurd (missing.symm.trans hfind) (by simp)
  | loaded found _ missing answer =>
    rw [SchemaCache.find?_store, TableSchema.ref_of_inCatalog answer] at hfind
    split at hfind
    · next htable =>
      subst htable
      obtain rfl := Option.some.inj hfind
      exact .inr ⟨rfl, Nat.lt_succ_self _, answer⟩
    · next hother => exact .inl ⟨hfind, fun htable => absurd htable hother⟩

/-- The schema that a request gets is held afterwards. -/
theorem find?_of_obtains (h : s.Prepared r answer after) {schema : TableSchema} (hobtains : s.Obtains r schema) :
    after.schemas.find? (s.tableRef r.table) = some schema := by
  cases h with
  | invalid part found => exact absurd (found.symm.trans hobtains.valid) (by simp)
  | unavailable cause valid missing answer =>
    rcases hobtains.source with found | ⟨-, answer'⟩
    · exact absurd (found.symm.trans missing) (by simp)
    · exact absurd (answer.symm.trans answer') (by simp)
  | held other valid found =>
    obtain rfl := hobtains.unique ⟨valid, .inl found⟩
    exact found
  | loaded other valid missing answer =>
    obtain rfl := hobtains.unique ⟨valid, .inr ⟨missing, answer⟩⟩
    rw [SchemaCache.find?_store, if_pos (TableSchema.ref_of_inCatalog answer)]

/-- The schemas are those from before, with the one of the table when it was loaded. -/
theorem held_cases (h : s.Prepared r answer after) :
    after.schemas.held = s.schemas.held ∨
      ∃ schema, schema.ref = s.tableRef r.table ∧ s.schemas.find? (s.tableRef r.table) = none ∧
        after.schemas.held = schema :: s.schemas.held ∧ answer = statementFor s.templates schema r := by
  cases h with
  | loaded schema _ missing answer =>
    have href := TableSchema.ref_of_inCatalog answer
    exact .inr ⟨schema, href, missing, SchemaCache.held_store (href ▸ missing), rfl⟩
  | _ => exact .inl rfl

end Prepared

theorem statementFor_ne_execution {schema : TableSchema} {table : String} {cause : WarehouseError} :
    statementFor s.templates schema r ≠ .error (.execution table cause) := by
  unfold statementFor
  split <;> simp

/-- No statement is sent for data before it is made. -/
theorem Prepared.ne_execution (h : s.Prepared r answer after) (table : String) (cause : WarehouseError) :
    answer ≠ .error (.execution table cause) := by
  cases h with
  | invalid | unavailable => simp
  | held | loaded => exact statementFor_ne_execution

theorem hadSchema_of_statementFor {schema : TableSchema} {e : FilterQueryError}
    (h : statementFor s.templates schema r = .error e) : e.HadSchema := by
  unfold statementFor at h
  split at h
  · obtain rfl := Except.error.inj h
    trivial
  · cases h

/-! ### Runs with rows in the cache and without -/

theorem run_of_hit {rows : List Row} (hit : s.results.find? r.key now = some rows) :
    (s.run now r).2 = { s with results := (s.results.get r.key now).2 } := by
  have hanswered := s.answered_run r now
  generalize (s.run now r).1 = outcome, (s.run now r).2 = after at hanswered ⊢
  cases hanswered with
  | held => rfl
  | refused _ miss | failed _ _ miss | fetched _ _ miss => exact absurd (hit.symm.trans miss) (by simp)

/-- Without rows in the cache the statement is made, and sent when there is one. -/
theorem run_of_miss (miss : s.results.find? r.key now = none) :
    (s.run now r).2.schemas = (s.prepare r).2.schemas ∧
      (s.run now r).2.gateway.sent = (s.prepare r).2.gateway.sent ++ (s.prepare r).1.toOption.toList := by
  have hanswered := s.answered_run r now
  generalize (s.run now r).1 = outcome, (s.run now r).2 = after at hanswered ⊢
  cases hanswered with
  | held _ hit => exact absurd (hit.symm.trans miss) (by simp)
  | refused e _ prepared => simp [prepared, Except.toOption]
  | failed _ _ _ prepared | fetched _ _ _ prepared => simp [prepared, Except.toOption]

theorem run_fixed (s : FilterService) (now : Nat) (r : FilterRequest) :
    (s.run now r).2.project = s.project ∧ (s.run now r).2.dataset = s.dataset ∧
      (s.run now r).2.templates = s.templates ∧ (s.run now r).2.gateway.answer = s.gateway.answer := by
  have hanswered := s.answered_run r now
  generalize (s.run now r).1 = outcome, (s.run now r).2 = after at hanswered ⊢
  cases hanswered with
  | held => exact ⟨rfl, rfl, rfl, rfl⟩
  | refused | failed | fetched => exact (s.prepared_prepare r).fixed

/-! ### The account of a run -/

/-- What a run answers and what it does to the service, by what is held for the request. -/
structure Accounted (s : FilterService) (now : Nat) (r : FilterRequest)
    (outcome : Except FilterQueryError FilterOutcome) (after : FilterService) : Prop where
  /-- Where the tables are, how statements are written and what the warehouse answers stays as it is. -/
  fixed : after.project = s.project ∧ after.dataset = s.dataset ∧ after.templates = s.templates ∧
    after.gateway.answer = s.gateway.answer
  /-- Rows come from the cache when it holds some under the key, and are the ones that it holds. -/
  held : ∀ rows, outcome = .ok ⟨rows, true⟩ ↔ s.results.find? r.key now = some rows
  /-- Other rows come when nothing is held, and are what the warehouse answers to the data statement. -/
  answered : ∀ rows, outcome = .ok ⟨rows, false⟩ ↔ s.results.find? r.key now = none ∧
    ∃ statement, s.Makes r statement ∧ s.gateway.answer statement = .ok rows
  /-- The execution fails when nothing is held and the data statement has no answer. -/
  unanswered : ∀ cause, outcome = .error (.execution r.table cause) ↔ s.results.find? r.key now = none ∧
    ∃ statement, s.Makes r statement ∧ s.gateway.answer statement = .error cause
  /-- An error stores no rows. It counts as a miss. -/
  failed : ∀ e, outcome = .error e → after.results = { s.results with misses := s.results.misses + 1 }
  /-- An error leaves the schemas alone, but that of its table may have come in before it. -/
  schemas : ∀ e, outcome = .error e → after.schemas.held = s.schemas.held ∨
    e.HadSchema ∧ ∃ schema, schema.ref = s.tableRef r.table ∧ s.schemas.find? (s.tableRef r.table) = none ∧
      after.schemas.held = schema :: s.schemas.held
  /-- When rows are held, this counts as a hit, and nothing else happens. -/
  hit : ∀ rows, s.results.find? r.key now = some rows →
    after = { s with results := { s.results with hits := s.results.hits + 1 } }
  /-- Other rows are stored once, after the miss is counted. -/
  fetched : ∀ rows, outcome = .ok ⟨rows, false⟩ →
    after.results = { s.results with misses := s.results.misses + 1 }.put r.key rows now
  /-- Nothing is sent when rows are held, nor for a table that is no identifier. -/
  silent : (∃ rows, s.results.find? r.key now = some rows) ∨ ¬(s.tableRef r.table).Valid →
    after.gateway.sent = s.gateway.sent ∧ after.schemas = s.schemas
  /-- Else the catalog is asked when no schema is held, which counts as a load, and then the data statement is sent
  when there is one. -/
  sent : s.results.find? r.key now = none → (s.tableRef r.table).Valid → ∃ data : Option Statement,
    after.gateway.sent = s.gateway.sent ++ s.catalogLookup (s.tableRef r.table) ++ data.toList ∧
    after.schemas.loads = s.schemas.loads + (s.catalogLookup (s.tableRef r.table)).length ∧
    ∀ statement, data = some statement ↔ s.Makes r statement

theorem Makes.valid {statement : Statement} (h : s.Makes r statement) : (s.tableRef r.table).Valid := by
  obtain ⟨schema, compiled, hobtains, -⟩ := h
  exact hobtains.valid

theorem accounted_held {rows : List Row} (hit : s.results.find? r.key now = some rows) :
    s.Accounted now r (.ok ⟨rows, true⟩) { s with results := (s.results.get r.key now).2 } where
  fixed := ⟨rfl, rfl, rfl, rfl⟩
  held := fun other => by simp [hit]
  answered := fun other => by simp [hit]
  unanswered := fun cause => by simp [hit]
  failed := nofun
  schemas := nofun
  hit := fun _ _ => by rw [ResultCache.get_of_hit hit]
  fetched := fun other h => by simp at h
  silent := fun _ => ⟨rfl, rfl⟩
  sent := fun miss => absurd (hit.symm.trans miss) (by simp)

theorem accounted_refused {e : FilterQueryError} (miss : s.results.find? r.key now = none)
    (prepared : (s.prepare r).1 = .error e) :
    s.Accounted now r (.error e) { (s.prepare r).2 with results := (s.results.get r.key now).2 } where
  fixed := (s.prepared_prepare r).fixed
  held := fun rows => by simp [miss]
  answered := fun rows => by
    refine ⟨nofun, ?_⟩
    rintro ⟨-, statement, makes, -⟩
    exact absurd ((prepare_eq_ok_iff.mpr makes).symm.trans prepared) (by simp)
  unanswered := fun cause => by
    constructor
    · rintro ⟨⟩
      exact absurd prepared ((s.prepared_prepare r).ne_execution _ _)
    · rintro ⟨-, statement, makes, -⟩
      exact absurd ((prepare_eq_ok_iff.mpr makes).symm.trans prepared) (by simp)
  failed := fun _ _ => by rw [ResultCache.get_of_miss miss]
  schemas := by
    rintro _ ⟨⟩
    rcases (s.prepared_prepare r).held_cases with hsame | ⟨schema, href, hmissing, hheld, hmade⟩
    · exact .inl hsame
    · exact .inr ⟨hadSchema_of_statementFor (hmade.symm.trans prepared), schema, href, hmissing, hheld⟩
  hit := fun rows hit => absurd (hit.symm.trans miss) (by simp)
  fetched := nofun
  silent := by
    rintro (⟨rows, hit⟩ | hinvalid)
    · exact absurd (hit.symm.trans miss) (by simp)
    · simp [(s.prepared_prepare r).of_not_valid hinvalid]
  sent := fun _ hvalid => by
    obtain ⟨hsent, hloads⟩ := (s.prepared_prepare r).sent_of_valid hvalid
    refine ⟨none, by simpa using hsent, hloads, fun statement => ⟨nofun, fun hmakes => ?_⟩⟩
    exact absurd ((prepare_eq_ok_iff.mpr hmakes).symm.trans prepared) (by simp)

theorem Makes.unique {statement other : Statement} (h : s.Makes r statement) (h' : s.Makes r other) : statement = other :=
  Except.ok.inj ((prepare_eq_ok_iff.mpr h).symm.trans (prepare_eq_ok_iff.mpr h'))

/-- What holds of every run that sends a data statement, whatever it is answered. -/
theorem sent_of_makes {statement : Statement} (makes : s.Makes r statement) : ∃ data : Option Statement,
    ((s.prepare r).2.gateway.send statement).2.sent =
      s.gateway.sent ++ s.catalogLookup (s.tableRef r.table) ++ data.toList ∧
    (s.prepare r).2.schemas.loads = s.schemas.loads + (s.catalogLookup (s.tableRef r.table)).length ∧
    ∀ other, data = some other ↔ s.Makes r other := by
  obtain ⟨hsent, hloads⟩ := (s.prepared_prepare r).sent_of_valid makes.valid
  refine ⟨some statement, by simp [hsent], hloads, fun other => ⟨?_, fun hother => ?_⟩⟩
  · rintro ⟨⟩
    exact makes
  · exact congrArg some (makes.unique hother)

theorem accounted_failed {statement : Statement} {cause : WarehouseError} (miss : s.results.find? r.key now = none)
    (makes : s.Makes r statement) (answer : s.gateway.answer statement = .error cause) :
    s.Accounted now r (.error (.execution r.table cause))
      { (s.prepare r).2 with
        results := (s.results.get r.key now).2
        gateway := ((s.prepare r).2.gateway.send statement).2 } where
  fixed := (s.prepared_prepare r).fixed
  held := fun rows => by simp [miss]
  answered := fun rows => by
    refine ⟨nofun, ?_⟩
    rintro ⟨-, other, makes', answer'⟩
    obtain rfl := makes.unique makes'
    exact absurd (answer.symm.trans answer') (by simp)
  unanswered := fun cause' => by
    constructor
    · rintro ⟨⟩
      exact ⟨miss, statement, makes, answer⟩
    · rintro ⟨-, other, makes', answer'⟩
      obtain rfl := makes.unique makes'
      obtain rfl := Except.error.inj (answer.symm.trans answer')
      rfl
  failed := fun _ _ => by rw [ResultCache.get_of_miss miss]
  schemas := by
    rintro _ ⟨⟩
    rcases (s.prepared_prepare r).held_cases with hsame | ⟨schema, href, hmissing, hheld, -⟩
    · exact .inl hsame
    · exact .inr ⟨trivial, schema, href, hmissing, hheld⟩
  hit := fun rows hit => absurd (hit.symm.trans miss) (by simp)
  fetched := nofun
  silent := by
    rintro (⟨rows, hit⟩ | hinvalid)
    · exact absurd (hit.symm.trans miss) (by simp)
    · exact absurd makes.valid hinvalid
  sent := fun _ _ => sent_of_makes makes

theorem accounted_fetched {statement : Statement} {rows : List Row} (miss : s.results.find? r.key now = none)
    (makes : s.Makes r statement) (answer : s.gateway.answer statement = .ok rows) :
    s.Accounted now r (.ok ⟨rows, false⟩)
      { (s.prepare r).2 with
        results := (s.results.get r.key now).2.put r.key rows now
        gateway := ((s.prepare r).2.gateway.send statement).2 } where
  fixed := (s.prepared_prepare r).fixed
  held := fun other => by simp [miss]
  answered := fun other => by
    constructor
    · intro h
      obtain rfl : rows = other := by simpa using h
      exact ⟨miss, statement, makes, answer⟩
    · rintro ⟨-, statement', makes', answer'⟩
      obtain rfl := makes.unique makes'
      obtain rfl := Except.ok.inj (answer.symm.trans answer')
      rfl
  unanswered := fun cause => by
    refine ⟨nofun, ?_⟩
    rintro ⟨-, other, makes', answer'⟩
    obtain rfl := makes.unique makes'
    exact absurd (answer.symm.trans answer') (by simp)
  failed := nofun
  schemas := nofun
  hit := fun other hit => absurd (hit.symm.trans miss) (by simp)
  fetched := by
    intro other h
    obtain rfl : rows = other := by simpa using h
    rw [ResultCache.get_of_miss miss]
  silent := by
    rintro (⟨other, hit⟩ | hinvalid)
    · exact absurd (hit.symm.trans miss) (by simp)
    · exact absurd makes.valid hinvalid
  sent := fun _ _ => sent_of_makes makes

/-- Every run keeps the account, in whatever state the service is and whatever the warehouse answers. -/
theorem run_accounted (s : FilterService) (now : Nat) (r : FilterRequest) :
    s.Accounted now r (s.run now r).1 (s.run now r).2 := by
  have hanswered := s.answered_run r now
  generalize (s.run now r).1 = outcome, (s.run now r).2 = after at hanswered ⊢
  cases hanswered with
  | held rows hit => exact accounted_held hit
  | refused e miss prepared => exact accounted_refused miss prepared
  | failed statement cause miss prepared answer =>
    exact accounted_failed miss (prepare_eq_ok_iff.mp prepared) answer
  | fetched statement rows miss prepared answer =>
    exact accounted_fetched miss (prepare_eq_ok_iff.mp prepared) answer

/-- A service whose warehouse has a catalog, and fails for statements that bind nothing. -/
def withoutData : FilterService :=
  new "p" "d" {} (.new 1 10) fun statement =>
    match statement.params.entries with
    | [] => .error .incomplete
    | _ => .ok [NameMap.ofList [("column_name", .string "edad"), ("data_type", .string "INT64")]]

/-- A request without filters. -/
def unfiltered : FilterRequest := { table := "t", filters := [] }

/-- The catalog has the table and the data statement fails: the schema is kept, no rows are, and both statements were
sent. The next run sends the data statement alone. -/
theorem run_accounted_of_failing_warehouse :
    (withoutData.run 0 unfiltered).1 = .error (.execution "t" .incomplete) ∧
      (withoutData.run 0 unfiltered).2.results = { withoutData.results with misses := 1 } ∧
      (∃ schema, schema.ref = ⟨"p", "d", "t"⟩ ∧ (withoutData.run 0 unfiltered).2.schemas.held = [schema]) ∧
      ∃ data, withoutData.Makes unfiltered data ∧
        (withoutData.run 0 unfiltered).2.gateway.sent = [Catalog.columnsStatement ⟨"p", "d", "t"⟩, data] ∧
        ((withoutData.run 0 unfiltered).2.run 1 unfiltered).2.gateway.sent =
          [Catalog.columnsStatement ⟨"p", "d", "t"⟩, data, data] := by
  have hmakes : withoutData.Makes unfiltered _ := prepare_eq_ok_iff.mp rfl
  have hmakes' : (withoutData.run 0 unfiltered).2.Makes unfiltered _ := prepare_eq_ok_iff.mp rfl
  have account := run_accounted withoutData 0 unfiltered
  have account' := run_accounted (withoutData.run 0 unfiltered).2 1 unfiltered
  have herror := (account.unanswered _).mpr ⟨rfl, _, hmakes, rfl⟩
  obtain ⟨data, hsent, -, hdata⟩ := account.sent rfl hmakes.valid
  obtain ⟨data', hsent', -, hdata'⟩ := account'.sent rfl hmakes'.valid
  obtain rfl := (hdata _).mpr hmakes
  obtain rfl := (hdata' _).mpr hmakes'
  refine ⟨herror, account.failed _ herror, ?_, _, hmakes, hsent, ?_⟩
  · rcases account.schemas _ herror with hsame | ⟨-, schema, href, -, hheld⟩
    · cases hsame
    · exact ⟨schema, href, hheld⟩
  · rw [hsent', hsent]
    rfl

end FilterService

end Audience
