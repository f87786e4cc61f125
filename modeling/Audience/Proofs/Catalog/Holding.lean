import Audience.Proofs.Catalog.Loading
import Audience.Proofs.Run

/-!
Which schemas a cache holds. The cache lives with a warehouse behind it that may answer in another way, or fail, from
one event to the next. An event leaves a table alone, takes its schema out or loads it (`touched_step`), so over a whole
run a schema is held exactly when it is made of the rows that the catalog gave to the most recent load of its table and
nothing took it out since (`LoadingCache.Current`).
-/

namespace Audience

/-- A cache of schemas and the warehouse that it loads them from. -/
structure LoadingCache where
  schemas : SchemaCache
  gateway : Gateway

/-- What can happen to a cache of schemas. -/
inductive SchemaEvent where
  | get (t : TableRef)
  | invalidate (t : TableRef)
  | invalidateAll
  | contains (t : TableRef)
  /-- The warehouse answers in another way: it has other tables, or it fails or works again. -/
  | change (answer : Warehouse)

/-- What is answered to an event. -/
inductive SchemaReply where
  | done
  | schema (answer : Except SchemaError TableSchema)
  | invalidated (existed : Bool)
  | contained (held : Bool)

namespace LoadingCache

/-- A cache that holds nothing yet. -/
def new (warehouse : Warehouse) : LoadingCache := ⟨.empty, .new warehouse⟩

/-- Answers an event. -/
def step (c : LoadingCache) : SchemaEvent → SchemaReply × LoadingCache
  | .get t => (.schema (c.schemas.get c.gateway t).1, ⟨(c.schemas.get c.gateway t).2.1, (c.schemas.get c.gateway t).2.2⟩)
  | .invalidate t => (.invalidated (c.schemas.invalidate t).1, { c with schemas := (c.schemas.invalidate t).2 })
  | .invalidateAll => (.done, { c with schemas := c.schemas.invalidateAll })
  | .contains t => (.contained (c.schemas.contains t), c)
  | .change answer => (.done, { c with gateway := { c.gateway with answer } })

/-- What the catalog answered in a moment that loaded the table: it was looked up, and the loads were counted up. -/
def loadOf? (t : TableRef) : LoadingCache × SchemaEvent → Option (Except WarehouseError (List Row))
  | (c, .get other) =>
    if other = t ∧ c.schemas.loads < (c.step (.get other)).2.schemas.loads then
      some (c.gateway.answer (Catalog.columnsStatement t))
    else none
  | _ => none

/-- The event takes out the schema of the table. -/
inductive TakesOut (t : TableRef) : SchemaEvent → Prop
  | invalidate : TakesOut t (.invalidate t)
  | invalidateAll : TakesOut t .invalidateAll

/-- The catalog answered this to the most recent load of the table, and nothing took its schema out since. -/
def LastLoad (t : TableRef) (moments : List (LoadingCache × SchemaEvent)) (answer : Except WarehouseError (List Row)) :
    Prop :=
  ∃ before m later, moments = before ++ m :: later ∧ loadOf? t m = some answer ∧
    ∀ n ∈ later, loadOf? t n = none ∧ ¬TakesOut t n.2

variable {c : LoadingCache} {e : SchemaEvent} {t other : TableRef} {moments : List (LoadingCache × SchemaEvent)}
  {m : LoadingCache × SchemaEvent} {answer : Except WarehouseError (List Row)} {schema : TableSchema}

/-! ### One event -/

theorem step_of_invalid (hinvalid : ¬t.Valid) :
    ∃ part, c.step (.get t) = (.schema (.error (.invalidIdentifier part)), c) := by
  obtain ⟨part, hpart⟩ := Option.ne_none_iff_exists'.mp hinvalid
  exact ⟨part, by simp only [step, SchemaCache.get_of_invalid _ _ hpart]⟩

theorem step_of_held (hvalid : t.Valid) (hfind : c.schemas.find? t = some schema) :
    c.step (.get t) = (.schema (.ok schema), c) := by
  simp only [step, SchemaCache.get_of_held _ hvalid hfind]

theorem step_of_missing (hvalid : t.Valid) (hfind : c.schemas.find? t = none) :
    c.step (.get t) =
      (.schema (TableSchema.inCatalog c.gateway.answer t),
        ⟨c.schemas.record (TableSchema.inCatalog c.gateway.answer t),
          (c.gateway.send (Catalog.columnsStatement t)).2⟩) := by
  simp only [step, SchemaCache.get_of_missing _ hvalid hfind]

/-- What an event does to a table. -/
inductive Touched (c : LoadingCache) (e : SchemaEvent) (t : TableRef) : Prop
  | kept (unloaded : loadOf? t (c, e) = none) (stays : ¬TakesOut t e)
      (found : (c.step e).2.schemas.find? t = c.schemas.find? t)
  | takenOut (unloaded : loadOf? t (c, e) = none) (goes : TakesOut t e) (found : (c.step e).2.schemas.find? t = none)
  | loaded (valid : t.Valid) (loaded : loadOf? t (c, e) = some (c.gateway.answer (Catalog.columnsStatement t)))
      (found : (c.step e).2.schemas.find? t = (TableSchema.inCatalog c.gateway.answer t).toOption)

theorem touched_get (c : LoadingCache) (other t : TableRef) : Touched c (.get other) t := by
  by_cases hvalid : other.Valid
  · cases hfind : c.schemas.find? other with
    | some schema =>
      have hstep := step_of_held hvalid hfind
      exact .kept (by simp [loadOf?, hstep]) nofun (by rw [hstep])
    | none =>
      have hstep := step_of_missing hvalid hfind
      by_cases htable : other = t
      · subst htable
        exact .loaded hvalid (by simp [loadOf?, hstep]) (by simp [hstep, SchemaCache.find?_record, hfind])
      · exact .kept (by simp [loadOf?, htable]) nofun (by simp [hstep, SchemaCache.find?_record, htable])
  · obtain ⟨part, hstep⟩ := step_of_invalid (c := c) hvalid
    exact .kept (by simp [loadOf?, hstep]) nofun (by rw [hstep])

theorem touched_step (c : LoadingCache) (e : SchemaEvent) (t : TableRef) : Touched c e t := by
  cases e with
  | get other => exact touched_get c other t
  | invalidate other =>
    have hfind := c.schemas.find?_invalidate other t
    by_cases htable : t = other
    · subst htable
      exact .takenOut rfl .invalidate (hfind.trans (if_pos rfl))
    · refine .kept rfl ?_ (hfind.trans (if_neg htable))
      rintro ⟨⟩
      exact htable rfl
  | invalidateAll => exact .takenOut rfl .invalidateAll rfl
  | contains | change => exact .kept rfl nofun rfl

/-! ### Whole runs -/

theorem lastLoad_append : LastLoad t (moments ++ [m]) answer ↔
    loadOf? t m = some answer ∨ loadOf? t m = none ∧ ¬TakesOut t m.2 ∧ LastLoad t moments answer := by
  constructor
  · rintro ⟨before, n, later, hmoments, hload, hlater⟩
    -- The last load is the added moment itself, or there are moments behind it and the added one ends them.
    rcases List.eq_nil_or_concat later with rfl | ⟨later, last, rfl⟩
    · obtain ⟨-, hm⟩ := List.append_inj' hmoments rfl
      obtain rfl := (List.cons.inj hm).1
      exact .inl hload
    · rw [List.concat_eq_append, ← List.cons_append, ← List.append_assoc] at hmoments
      obtain ⟨rfl, hm⟩ := List.append_inj' hmoments rfl
      obtain rfl := (List.cons.inj hm).1
      obtain ⟨hnone, hstays⟩ := hlater m (by simp)
      exact .inr ⟨hnone, hstays, before, n, later, rfl, hload, fun x hx => hlater x (by simp [hx])⟩
  · rintro (hload | ⟨hnone, hstays, before, n, later, rfl, hload, hlater⟩)
    · exact ⟨moments, m, [], rfl, hload, List.forall_mem_nil _⟩
    · refine ⟨before, n, later ++ [m], by simp, hload, fun x hx => ?_⟩
      rcases List.mem_append.mp hx with hx | hx
      · exact hlater x hx
      · obtain rfl := List.mem_singleton.mp hx
        exact ⟨hnone, hstays⟩

/-- A schema is held when it is made of what the catalog answered to the last load. -/
def Current (moments : List (LoadingCache × SchemaEvent)) (c : LoadingCache) : Prop :=
  ∀ t schema, c.schemas.find? t = some schema ↔
    t.Valid ∧ ∃ rows, LastLoad t moments (.ok rows) ∧ schema.MadeOf t rows

theorem current_new (warehouse : Warehouse) : Current [] (new warehouse) := by
  intro t schema
  constructor
  · nofun
  · rintro ⟨-, rows, ⟨before, m, later, hmoments, -⟩, -⟩
    exact absurd hmoments.symm (by simp)

theorem Current.step (h : Current moments c) (e : SchemaEvent) : Current (moments ++ [(c, e)]) (c.step e).2 := by
  intro t schema
  simp only [lastLoad_append]
  -- An event that loads the table decides alone; one that leaves it hands on the last load with what is held.
  cases touched_step c e t with
  | kept unloaded stays found =>
    rw [found, h t schema]
    simp [unloaded, stays]
  | takenOut unloaded goes found => simp [found, unloaded, goes]
  | loaded valid loaded found =>
    have hkept : (TableSchema.inCatalog c.gateway.answer t).toOption = some schema ↔
        TableSchema.inCatalog c.gateway.answer t = .ok schema := by
      cases TableSchema.inCatalog c.gateway.answer t <;> simp [Except.toOption]
    rw [found, hkept, TableSchema.inCatalog_eq_ok_iff]
    simp [valid, loaded]

theorem current_run (warehouse : Warehouse) (es : List SchemaEvent) :
    Current (Run.moments step (new warehouse) es) (Run.after step (new warehouse) es) :=
  Run.moments_induction step (P := Current) (fun _ _ e h => h.step e) (current_new warehouse) es

/-! ### Look-ups in a run -/

/-- What the next event does, by what is held. -/
structure Orderly (c : LoadingCache) : Prop where
  /-- A schema that is held is the answer, and nothing else happens. -/
  held : ∀ t schema, c.schemas.find? t = some schema → c.step (.get t) = (.schema (.ok schema), c)
  /-- A table that is no identifier is refused, and nothing else happens. -/
  invalid : ∀ t, ¬t.Valid → ∃ part, c.step (.get t) = (.schema (.error (.invalidIdentifier part)), c)
  /-- Any other table costs one look-up in the catalog, counted as a load. It gets the schema that the rows make. -/
  missing : ∀ t, t.Valid → c.schemas.find? t = none →
    (c.step (.get t)).2.gateway.sent = c.gateway.sent ++ [Catalog.columnsStatement t] ∧
      (c.step (.get t)).2.schemas.loads = c.schemas.loads + 1 ∧
      ∀ schema, (c.step (.get t)).1 = .schema (.ok schema) ↔
        ∃ rows, c.gateway.answer (Catalog.columnsStatement t) = .ok rows ∧ schema.MadeOf t rows
  /-- A look-up fails for a table that is no identifier, and for a missing one when the catalog fails, has no columns
  or lacks the name or the type of one. -/
  fails_iff : ∀ t, (∃ cause, (c.step (.get t)).1 = .schema (.error cause)) ↔
    ¬t.Valid ∨ c.schemas.find? t = none ∧
      ((∃ cause, c.gateway.answer (Catalog.columnsStatement t) = .error cause) ∨
        c.gateway.answer (Catalog.columnsStatement t) = .ok [] ∨
        ∃ rows, c.gateway.answer (Catalog.columnsStatement t) = .ok rows ∧ ∃ row ∈ rows, ¬Catalog.Describes row)
  /-- A failure leaves what is held. -/
  failed : ∀ t cause, (c.step (.get t)).1 = .schema (.error cause) → (c.step (.get t)).2.schemas.held = c.schemas.held
  /-- Taking out says whether there was a schema. The other tables, the loads and the warehouse stay as they are. -/
  invalidated : ∀ t, (c.step (.invalidate t)).1 = .invalidated (c.schemas.contains t) ∧
    (∀ other, (c.step (.invalidate t)).2.schemas.find? other = if other = t then none else c.schemas.find? other) ∧
    (c.step (.invalidate t)).2.schemas.loads = c.schemas.loads ∧ (c.step (.invalidate t)).2.gateway = c.gateway

theorem Current.orderly (h : Current moments c) : c.Orderly where
  held := fun t schema hfind => step_of_held ((h t schema).mp hfind).1 hfind
  invalid := fun t hinvalid => step_of_invalid hinvalid
  missing := fun t hvalid hfind => by
    rw [step_of_missing hvalid hfind]
    simp [TableSchema.inCatalog_eq_ok_iff]
  fails_iff := fun t => by
    by_cases hvalid : t.Valid
    · cases hfind : c.schemas.find? t with
      | some schema => simp [step_of_held hvalid hfind, hvalid]
      | none => simp [step_of_missing hvalid hfind, hvalid, ← TableSchema.exists_inCatalog_eq_error_iff]
    · obtain ⟨part, hstep⟩ := step_of_invalid (c := c) hvalid
      simp [hstep, hvalid]
  failed := fun t cause hfailed => by
    by_cases hvalid : t.Valid
    · cases hfind : c.schemas.find? t with
      | some schema => rw [step_of_held hvalid hfind]
      | none =>
        rw [step_of_missing hvalid hfind] at hfailed ⊢
        rw [SchemaReply.schema.inj hfailed]
        rfl
    · obtain ⟨part, hstep⟩ := step_of_invalid (c := c) hvalid
      rw [hstep]
  invalidated := fun t => ⟨rfl, c.schemas.find?_invalidate t, rfl, rfl⟩

/-- In every run, over a warehouse that may change and fail at any event, a table is held exactly when it is valid and
the catalog answered to its most recent load with at least one column and nothing took it out since. What is held is
what those rows make. The next event goes by what is held. -/
theorem holds_last_loads (warehouse : Warehouse) (es : List SchemaEvent) :
    let c := Run.after step (new warehouse) es
    let moments := Run.moments step (new warehouse) es
    (∀ t, c.schemas.contains t = true ↔
        t.Valid ∧ ∃ rows, LastLoad t moments (.ok rows) ∧ rows ≠ [] ∧ ∀ row ∈ rows, Catalog.Describes row) ∧
      (∀ t schema, c.schemas.find? t = some schema ↔
        t.Valid ∧ ∃ rows, LastLoad t moments (.ok rows) ∧ schema.MadeOf t rows) ∧
      c.Orderly := by
  intro c moments
  have hcurrent : Current moments c := current_run warehouse es
  refine ⟨fun t => ?_, hcurrent, hcurrent.orderly⟩
  rw [SchemaCache.contains, Option.isSome_iff_exists]
  simp only [hcurrent t, exists_and_left]
  rw [exists_comm]
  simp only [exists_and_left, TableSchema.exists_madeOf_iff]

end LoadingCache

end Audience
