import Audience.Proofs.Filter.Compilation
import Audience.Proofs.Http.Serving
import Audience.Proofs.Service.Effects
import Audience.Proofs.Warehouse.BaseTable

/-!
Which statements a server sends. The name of a table is checked by the cache of schemas and the names of columns by the
compiler, and the text is put together behind both. `Task.Sends` says what a task can send, `Server.Kept` is the
invariant over a run: the schemas that are held are those that were loaded last for their tables. A statement that is
sent is then `Vetted`: it is a look-up in the catalog, or its table is an identifier and its columns are those of the
schema that was loaded last.
-/

namespace Audience

/-! ### Columns in predicates -/

/-- The predicate is about the column. -/
inductive PredicateOn (column : String) : String → Prop
  | equals (position : Nat) : PredicateOn column (column ++ " = @" ++ Condition.paramName position)
  | onDate (position : Nat) : PredicateOn column ("DATE(" ++ column ++ ") = @" ++ Condition.paramName position)
  | inMonth (position : Nat) :
      PredicateOn column ("EXTRACT(MONTH FROM DATE(" ++ column ++ ")) = @" ++ Condition.paramName position ++ "_month")
  | onDay (position : Nat) :
      PredicateOn column ("EXTRACT(DAY FROM DATE(" ++ column ++ ")) = @" ++ Condition.paramName position ++ "_day")

variable {columns : Columns} {campaign : CampaignKind} {fs : List FilterSpec} {cs : List Condition} {p : String}

theorem mem_names_of_get? {name : String} {type : ColumnType} (h : columns.get? name = some type) :
    name ∈ columns.names := by
  simp [NameMap.mem_names_iff, h]

theorem Condition.Arises.predicateOn {f : FilterSpec} {c : Condition} {position : Nat}
    (h : Condition.Arises columns campaign f c) (hp : p ∈ c.predicates position) :
    p = Condition.alwaysTrue ∨ ∃ column ∈ columns.names, PredicateOn column p := by
  cases h with
  | anything => exact .inl (List.mem_singleton.mp hp)
  | onDayMonth chosen known =>
    refine .inr ⟨_, mem_names_of_get? known, ?_⟩
    rcases List.mem_pair.mp hp with rfl | rfl
    · exact .inMonth position
    · exact .onDay position
  | onDate chosen known =>
    obtain rfl := List.mem_singleton.mp hp
    exact .inr ⟨_, mem_names_of_get? known, .onDate position⟩
  | equals chosen known =>
    obtain rfl := List.mem_singleton.mp hp
    exact .inr ⟨_, mem_names_of_get? known, .equals position⟩

/-- Every predicate but the one that is always true is about a column of the schema. -/
theorem AreConditions.predicateOn {position : Nat} (h : AreConditions columns campaign fs cs)
    (hp : p ∈ CompiledFilters.predicatesFrom position cs) :
    p = Condition.alwaysTrue ∨ ∃ column ∈ columns.names, PredicateOn column p := by
  unfold AreConditions at h
  induction h generalizing position with
  | nil => cases hp
  | cons hf _ ih =>
    rcases List.mem_append.mp hp with hp | hp
    · exact (Condition.ofFilter_eq_ok_iff.mp hf).predicateOn hp
    · exact ih hp

/-- Filters compile only when every one that chooses is on a column of the schema. -/
theorem AreConditions.mem_names {f : FilterSpec} (h : AreConditions columns campaign fs cs) (hf : f ∈ fs)
    (chosen : f.isWildcard = false) : f.column ∈ columns.names := by
  obtain ⟨i, hi⟩ := List.mem_iff_getElem?.mp hf
  obtain ⟨c, -, hc⟩ := h.exists_condition hi
  cases Condition.ofFilter_eq_ok_iff.mp hc with
  | anything wildcard => exact absurd (wildcard.symm.trans chosen) (by decide)
  | onDayMonth _ known | onDate _ known | equals _ known => exact mem_names_of_get? known

namespace Http

/-! ### What a task sends -/

/-- A statement that a task can send at a time. -/
inductive Task.Sends (s : FilterService) (now : Nat) : Task → Statement → Prop
  | columns {task : Task} {table : String} (about : task.table? = some table) (valid : (s.tableRef table).Valid) :
      Sends s now task (Catalog.columnsStatement (s.tableRef table))
  | tables {table : String} (valid : (s.tableRef table).Valid) :
      Sends s now (.introspect table) (Catalog.tablesStatement s.project s.dataset)
  | data {q : FilterRequest} {statement : Statement} (miss : s.results.find? q.key now = none)
      (makes : s.Makes q statement) : Sends s now (.query q) statement

namespace Task

variable {s : FilterService} {now : Nat} {task : Task} {t : TableRef} {schema : TableSchema} {statement : Statement}

theorem Sends.valid {table : String} (h : task.Sends s now statement) (about : task.table? = some table) :
    (s.tableRef table).Valid := by
  cases h with
  | columns about' valid =>
    obtain rfl := Option.some.inj (about.symm.trans about')
    exact valid
  | tables valid =>
    obtain rfl := Option.some.inj about
    exact valid
  | data miss makes =>
    obtain rfl := Option.some.inj about
    exact makes.valid

theorem sends_query (s : FilterService) (now : Nat) (q : FilterRequest) : ∃ statements,
    (s.run now q).2.gateway.sent = s.gateway.sent ++ statements ∧
      ∀ statement ∈ statements, (Task.query q).Sends s now statement := by
  cases hfind : s.results.find? q.key now with
  | some rows => exact ⟨[], by simp [FilterService.run_of_hit hfind], List.forall_mem_nil _⟩
  | none =>
    obtain ⟨-, hsent⟩ := FilterService.run_of_miss hfind
    obtain ⟨lookups, hlookups, hall⟩ := (s.prepared_prepare q).sent
    refine ⟨lookups ++ (s.prepare q).1.toOption.toList, ?_, fun statement hmem => ?_⟩
    · rw [hsent, hlookups, List.append_assoc]
    · rcases List.mem_append.mp hmem with hmem | hmem
      · obtain ⟨hvalid, rfl⟩ := hall statement hmem
        exact .columns rfl hvalid
      · cases hprepared : (s.prepare q).1 with
        | error e => simp [hprepared, Except.toOption] at hmem
        | ok made =>
          obtain rfl : statement = made := by simpa [hprepared, Except.toOption] using hmem
          exact .data hfind (FilterService.prepare_eq_ok_iff.mp hprepared)

/-- A task adds to what was sent only what it can send. -/
theorem sends_perform (s : FilterService) (now : Nat) (task : Task) : ∃ statements,
    (task.perform s now).gateway.sent = s.gateway.sent ++ statements ∧
      ∀ statement ∈ statements, task.Sends s now statement := by
  cases task with
  | query q => exact sends_query s now q
  | introspect table =>
    simp only [perform]
    split
    · next hvalid =>
      refine ⟨[Catalog.columnsStatement (s.tableRef table), Catalog.tablesStatement s.project s.dataset],
        by simp [FilterService.tableRef], fun statement hmem => ?_⟩
      rcases List.mem_pair.mp hmem with rfl | rfl
      · exact .columns rfl hvalid
      · exact .tables hvalid
    · exact ⟨[], by simp, List.forall_mem_nil _⟩
  | forget table =>
    refine ⟨[], ?_, List.forall_mem_nil _⟩
    simp only [perform]
    split <;> simp
  | _ => exact ⟨[], by simp [perform], List.forall_mem_nil _⟩

/-! ### What a task leaves -/

theorem perform_fixed (s : FilterService) (now : Nat) (task : Task) :
    (task.perform s now).project = s.project ∧ (task.perform s now).dataset = s.dataset ∧
      (task.perform s now).templates = s.templates := by
  cases task with
  | query q =>
    obtain ⟨hproject, hdataset, htemplates, -⟩ := s.run_fixed now q
    exact ⟨hproject, hdataset, htemplates⟩
  | introspect table | forget table =>
    simp only [perform]
    split <;> exact ⟨rfl, rfl, rfl⟩
  | _ => exact ⟨rfl, rfl, rfl⟩

/-- A schema that is held after a task was held before, and then the task did not load it, or the task loaded it. -/
theorem find?_perform (h : (task.perform s now).schemas.find? t = some schema) :
    (s.schemas.find? t = some schema ∧
        (task.table?.map s.tableRef = some t → (task.perform s now).schemas.loads = s.schemas.loads)) ∨
      (task.table?.map s.tableRef = some t ∧ s.schemas.loads < (task.perform s now).schemas.loads ∧
        TableSchema.inCatalog s.gateway.answer t = .ok schema) := by
  cases task with
  | query q =>
    replace h : (s.run now q).2.schemas.find? t = some schema := h
    show (_ ∧ (some (s.tableRef q.table) = some t → (s.run now q).2.schemas.loads = s.schemas.loads)) ∨
      (some (s.tableRef q.table) = some t ∧ s.schemas.loads < (s.run now q).2.schemas.loads ∧ _)
    cases hfind : s.results.find? q.key now with
    | some rows =>
      rw [FilterService.run_of_hit hfind] at h ⊢
      exact .inl ⟨h, fun _ => rfl⟩
    | none =>
      obtain ⟨hschemas, -⟩ := FilterService.run_of_miss hfind
      rw [hschemas] at h ⊢
      simpa only [Option.some.injEq] using (s.prepared_prepare q).find?_cases h
  | forget table =>
    simp only [perform] at h ⊢
    split at h
    · next hvalid =>
      rw [SchemaCache.find?_invalidate] at h
      split at h
      · cases h
      · exact .inl ⟨h, fun _ => by simp [hvalid, SchemaCache.invalidate]⟩
    · next hinvalid => exact .inl ⟨h, fun _ => by simp [hinvalid]⟩
  | introspect table =>
    have hschemas : ((Task.introspect table).perform s now).schemas = s.schemas := by
      simp only [perform]
      split <;> rfl
    rw [hschemas] at h ⊢
    exact .inl ⟨h, fun _ => rfl⟩
  | _ => exact .inl ⟨h, fun _ => rfl⟩

end Task

namespace Server

/-! ### Loads -/

/-- What the catalog had for a table in a moment that loaded its schema: a request came for the table, and the
loads were counted up. -/
def loadOf? (t : TableRef) (m : LiveService × ServerEvent) : Option (Except SchemaError TableSchema) :=
  match m.2 with
  | .request r =>
    if r.task.table?.map m.1.service.tableRef = some t ∧
        m.1.service.schemas.loads < (step m.1 m.2).2.service.schemas.loads then
      some (TableSchema.inCatalog m.1.service.gateway.answer t)
    else none
  | _ => none

/-- What the catalog had when the schema of a table was loaded last. -/
def lastLoad? (t : TableRef) (moments : List (LiveService × ServerEvent)) : Option (Except SchemaError TableSchema) :=
  moments.reverse.findSome? (loadOf? t)

/-- The statements that a moment adds to those that were sent. -/
def sentBy (m : LiveService × ServerEvent) : List Statement :=
  (step m.1 m.2).2.service.gateway.sent.drop m.1.service.gateway.sent.length

variable {settings : Settings} {moments before : List (LiveService × ServerEvent)} {s : LiveService} {r : Request}
  {schema : TableSchema} {statement : Statement}

theorem lastLoad?_append (t : TableRef) (moments : List (LiveService × ServerEvent)) (m : LiveService × ServerEvent) :
    lastLoad? t (moments ++ [m]) = (loadOf? t m).or (lastLoad? t moments) := by
  rw [lastLoad?, List.reverse_concat, List.findSome?_cons]
  cases loadOf? t m <;> rfl

/-- The names in the statements are those of the settings, and every schema that is held is the one that was loaded
last for its table. -/
structure Kept (settings : Settings) (moments : List (LiveService × ServerEvent)) (s : LiveService) : Prop where
  project : s.service.project = settings.warehouse.project
  dataset : s.service.dataset = settings.warehouse.dataset
  templates : s.service.templates = settings.templates
  loaded : ∀ {t schema}, s.service.schemas.find? t = some schema → lastLoad? t moments = some (.ok schema)

theorem kept_launch (settings : Settings) (warehouse : Warehouse) (now : Nat) :
    Kept settings [] (launch settings warehouse now) :=
  ⟨rfl, rfl, rfl, nofun⟩

theorem Kept.step (h : Kept settings moments s) (e : ServerEvent) :
    Kept settings (moments ++ [(s, e)]) (step s e).2 := by
  cases e with
  | change answer | advance ms => exact ⟨h.project, h.dataset, h.templates, fun hfind => by
      simpa [lastLoad?_append, loadOf?] using h.loaded hfind⟩
  | request r =>
    obtain ⟨hproject, hdataset, htemplates⟩ := r.task.perform_fixed s.service s.now
    refine ⟨?_, ?_, ?_, fun hfind => ?_⟩
    · rw [step_request, ← h.project]
      exact hproject
    · rw [step_request, ← h.dataset]
      exact hdataset
    · rw [step_request, ← h.templates]
      exact htemplates
    · rw [step_request] at hfind
      simp only [lastLoad?_append, loadOf?, step_request]
      rcases Task.find?_perform hfind with ⟨hold, hsame⟩ | ⟨htable, hmore, hanswer⟩
      · rw [if_neg, Option.none_or]
        · exact h.loaded hold
        · rintro ⟨htable, hmore⟩
          exact absurd (hsame htable) (Nat.ne_of_gt hmore)
      · rw [if_pos ⟨htable, hmore⟩, hanswer, Option.some_or]

/-! ### What is sent -/

/-- The statement has only names that were checked. The settings tell the project and the dataset, the moments which
columns a table has. -/
inductive Vetted (settings : Settings) (moments : List (LiveService × ServerEvent)) : Statement → Prop
  /-- The columns of a table are looked up. The name of the table is bound. -/
  | columns (table : String) (identifier : TableRef.isIdentifier TableRef.inIdentifier table = true) :
      Vetted settings moments
        ⟨Catalog.columnsSql settings.warehouse.project settings.warehouse.dataset,
          NameMap.empty.insert "table" (.string table)⟩
  /-- The tables are looked up. -/
  | tables : Vetted settings moments ⟨Catalog.tablesSql settings.warehouse.project settings.warehouse.dataset, ∅⟩
  /-- The rows of a table are asked for, by predicates on the columns of the schema that was loaded last. The text has
  the table where its rows are taken from. -/
  | data (table : String) (schema : TableSchema) (predicates : List String) (campaign : CampaignKind) (mode : SendMode)
      (params : Params) (identifier : TableRef.isIdentifier TableRef.inIdentifier table = true)
      (loaded : lastLoad? ⟨settings.warehouse.project, settings.warehouse.dataset, table⟩ moments = some (.ok schema))
      (known : ∀ p ∈ predicates, p = Condition.alwaysTrue ∨ ∃ column ∈ schema.columns.names, PredicateOn column p)
      (base : ∃ rest, (settings.templates.sql ⟨settings.warehouse.project, settings.warehouse.dataset, table⟩
          (CompiledFilters.joined predicates) campaign mode).toList =
        QueryTemplates.beforeBase ⟨settings.warehouse.project, settings.warehouse.dataset, table⟩ ++
          '.' :: (table.toList ++ '`' :: rest)) :
      Vetted settings moments
        ⟨settings.templates.sql ⟨settings.warehouse.project, settings.warehouse.dataset, table⟩
          (CompiledFilters.joined predicates) campaign mode, params⟩

theorem Kept.tableRef (h : Kept settings moments s) (table : String) :
    s.service.tableRef table = ⟨settings.warehouse.project, settings.warehouse.dataset, table⟩ := by
  rw [FilterService.tableRef, h.project, h.dataset]

/-- The schema that a request without rows in the cache gets is the one that was loaded last, by then. -/
theorem Kept.obtained (h : Kept settings before s) {q : FilterRequest} (htask : r.task = .query q)
    (miss : s.service.results.find? q.key s.now = none) (hobtains : s.service.Obtains q schema) :
    lastLoad? ⟨settings.warehouse.project, settings.warehouse.dataset, q.table⟩ (before ++ [(s, .request r)]) =
      some (.ok schema) := by
  refine (h.step (.request r)).loaded ?_
  rw [step_request, htask, ← h.tableRef]
  show (s.service.run s.now q).2.schemas.find? _ = _
  rw [(FilterService.run_of_miss miss).1]
  exact (s.service.prepared_prepare q).find?_of_obtains hobtains

theorem Kept.vetted (h : Kept settings before s) (hsends : r.task.Sends s.service s.now statement) :
    Vetted settings (before ++ [(s, .request r)]) statement := by
  generalize htask : r.task = task at hsends
  cases hsends with
  | @columns _ table _ valid =>
    rw [h.tableRef] at valid ⊢
    exact .columns table valid.table
  | tables =>
    rw [h.project, h.dataset]
    exact .tables
  | @data q _ miss makes =>
    obtain ⟨schema, compiled, hobtains, hcompile, rfl⟩ := makes
    obtain ⟨conditions, hconditions, rfl⟩ := compile_eq_ok_iff.mp hcompile
    have hloaded := h.obtained htask miss hobtains
    rw [h.templates, h.tableRef]
    exact .data q.table schema _ q.campaign q.mode _ hobtains.valid.table hloaded
      (fun p hp => hconditions.predicateOn hp) (QueryTemplates.toList_sql _ _ _ _ _)

/-- A moment adds to what was sent, and what it adds a task sends. -/
theorem sent_step (s : LiveService) (e : ServerEvent) :
    (step s e).2.service.gateway.sent = s.service.gateway.sent ++ sentBy (s, e) ∧
      ∀ statement ∈ sentBy (s, e), ∃ r, e = .request r ∧ r.task.Sends s.service s.now statement := by
  have hsent : ∀ statements, (step s e).2.service.gateway.sent = s.service.gateway.sent ++ statements →
      sentBy (s, e) = statements := by
    intro statements h
    simp [sentBy, h]
  cases e with
  | change answer | advance ms =>
    rw [hsent [] (List.append_nil _).symm]
    exact ⟨(List.append_nil _).symm, List.forall_mem_nil _⟩
  | request r =>
    obtain ⟨statements, hadded, hall⟩ := r.task.sends_perform s.service s.now
    replace hadded : (step s (.request r)).2.service.gateway.sent = s.service.gateway.sent ++ statements := by
      rw [step_request]
      exact hadded
    rw [hsent statements hadded]
    exact ⟨hadded, fun statement hmem => ⟨r, rfl, hall statement hmem⟩⟩

theorem kept_run (settings : Settings) (warehouse : Warehouse) (now : Nat) (es : List ServerEvent) :
    Kept settings (Run.moments step (launch settings warehouse now) es)
      (Run.after step (launch settings warehouse now) es) :=
  Run.moments_induction step (P := Kept settings) (fun _ _ e h => h.step e) (kept_launch settings warehouse now) es

/-- All that was sent was sent by the moments of the run. -/
theorem sent_run (settings : Settings) (warehouse : Warehouse) (now : Nat) (es : List ServerEvent) :
    (Run.after step (launch settings warehouse now) es).service.gateway.sent =
      (Run.moments step (launch settings warehouse now) es).flatMap sentBy := by
  refine Run.moments_induction step (P := fun moments s => s.service.gateway.sent = moments.flatMap sentBy) ?_ rfl es
  intro before s e h
  rw [(sent_step s e).1, h, List.flatMap_append, List.flatMap_singleton]

theorem sentBy_of_no_identifier {table : String} (htable : r.task.table? = some table)
    (hno : TableRef.isIdentifier TableRef.inIdentifier table = false) : sentBy (s, .request r) = [] := by
  refine List.eq_nil_iff_forall_not_mem.mpr fun statement hmem => ?_
  obtain ⟨r', heq, hsends⟩ := (sent_step s (.request r)).2 statement hmem
  obtain rfl := ServerEvent.request.inj heq
  have hvalid := (hsends.valid htable).table
  exact absurd (hvalid.symm.trans hno) (by decide)

/-- A filter that chooses on a column that the schema loaded last does not have keeps its request from asking for
rows. -/
theorem Kept.sentBy_of_unknown_column (h : Kept settings before s) {q : FilterRequest} {f : FilterSpec}
    (htask : r.task = .query q) (hf : f ∈ q.filters) (chosen : f.isWildcard = false)
    (unknown : ∀ schema, lastLoad? ⟨settings.warehouse.project, settings.warehouse.dataset, q.table⟩
      (before ++ [(s, .request r)]) = some (.ok schema) → f.column ∉ schema.columns.names)
    (hmem : statement ∈ sentBy (s, .request r)) :
    statement = Catalog.columnsStatement ⟨settings.warehouse.project, settings.warehouse.dataset, q.table⟩ := by
  obtain ⟨r', heq, hsends⟩ := (sent_step s (.request r)).2 statement hmem
  obtain rfl := ServerEvent.request.inj heq
  rw [← h.tableRef]
  rw [htask] at hsends
  cases hsends with
  | columns about =>
    obtain rfl := Option.some.inj about
    rfl
  | data miss makes =>
    obtain ⟨schema, compiled, hobtains, hcompile, rfl⟩ := makes
    obtain ⟨conditions, hconditions, -⟩ := compile_eq_ok_iff.mp hcompile
    exact absurd (hconditions.mem_names hf chosen) (unknown schema (h.obtained htask miss hobtains))

/-- In every run whatever is sent was vetted when it was sent. A request for a table that is no identifier sends
nothing, and one with a filter on a column that the schema loaded last does not have sends at most the look-up of the
columns. -/
theorem only_vetted_sent (settings : Settings) (warehouse : Warehouse) (now : Nat) (es : List ServerEvent) :
    (Run.after step (launch settings warehouse now) es).service.gateway.sent =
        (Run.moments step (launch settings warehouse now) es).flatMap sentBy ∧
      ∀ before s e later, Run.moments step (launch settings warehouse now) es = before ++ (s, e) :: later →
        (∀ statement ∈ sentBy (s, e), Vetted settings (before ++ [(s, e)]) statement) ∧
        (∀ r table, e = .request r → r.task.table? = some table →
          TableRef.isIdentifier TableRef.inIdentifier table = false → sentBy (s, e) = []) ∧
        ∀ r q f, e = .request r → r.task = .query q → f ∈ q.filters → f.isWildcard = false →
          (∀ schema, lastLoad? ⟨settings.warehouse.project, settings.warehouse.dataset, q.table⟩
              (before ++ [(s, e)]) = some (.ok schema) → f.column ∉ schema.columns.names) →
          ∀ statement ∈ sentBy (s, e), statement =
            Catalog.columnsStatement ⟨settings.warehouse.project, settings.warehouse.dataset, q.table⟩ := by
  refine ⟨sent_run settings warehouse now es, fun before s e later hmoments => ?_⟩
  obtain ⟨fs, rfl, rfl⟩ := Run.moments_split step hmoments
  have hkept := kept_run settings warehouse now fs
  refine ⟨fun statement hmem => ?_, ?_, ?_⟩
  · obtain ⟨r, rfl, hsends⟩ := (sent_step _ e).2 statement hmem
    exact hkept.vetted hsends
  · rintro r table rfl htable hno
    exact sentBy_of_no_identifier htable hno
  · rintro r q f rfl htask hf chosen hunknown statement hmem
    exact hkept.sentBy_of_unknown_column htask hf chosen hunknown hmem

/-- The table `t` has the column `ciudad` alone: for a filter on `edad` its columns are looked up and no rows are asked
for. The table `t;` is not looked up. -/
theorem only_vetted_sent_for_unknown_names :
    let start := launch {}
      (fun _ => .ok [.ofList [("column_name", .string "ciudad"), ("data_type", .string "STRING")]]) 0
    let column : Request := ⟨"POST", "/filters/query", [("content-type", "application/json")],
      "\x7b\"table\": \"t\", \"filters\": [\x7b\"column\": \"edad\", \"value\": \"30\"\x7d]\x7d"⟩
    let table : Request := ⟨"GET", "/schema/t%3B", [], ""⟩
    sentBy (start, .request column) ≠ [] ∧
      (∀ statement ∈ sentBy (start, .request column),
        statement = Catalog.columnsStatement ⟨"segmento", "campanas", "t"⟩) ∧
      sentBy ((step start (.request column)).2, .request table) = [] := by
  intro start column table
  have hsent : sentBy (start, .request column) ≠ [] := by decide +kernel +revert
  have hquery : (match column.task with
      | .query q => some (q.table, q.filters.map fun f => (f.column, f.isWildcard))
      | _ => none) = some ("t", [("edad", false)]) := by decide +kernel +revert
  have hload : lastLoad? ⟨"segmento", "campanas", "t"⟩ [(start, .request column)] =
      some (.ok ⟨⟨"segmento", "campanas", "t"⟩, .ofList [("ciudad", .string)]⟩) := by decide +kernel +revert
  have htable : table.task.table? = some "t;" := by decide +kernel +revert
  obtain ⟨-, hmoments⟩ := only_vetted_sent {} _ 0 [.request column, .request table]
  obtain ⟨-, -, hcolumn⟩ := hmoments [] _ _ [_] rfl
  obtain ⟨-, hno, -⟩ := hmoments [_] _ _ [] rfl
  refine ⟨hsent, ?_, hno table _ rfl htable (by decide)⟩
  split at hquery
  · next q htask =>
    obtain ⟨htable, hfilters⟩ := Prod.mk.inj (Option.some.inj hquery)
    obtain ⟨f, hf, hf'⟩ := List.map_eq_singleton_iff.mp hfilters
    obtain ⟨hname, hchosen⟩ := Prod.mk.inj hf'
    refine htable ▸ hcolumn column q f rfl htask (hf ▸ List.mem_singleton_self f) hchosen ?_
    intro schema hschema
    obtain rfl := Except.ok.inj (Option.some.inj (hload.symm.trans (htable ▸ hschema)))
    rw [hname]
    decide +kernel
  · cases hquery

end Server

end Http

end Audience
