import Audience.Catalog.SchemaCache

/-!
The ends of looking up a schema. `SchemaCache.LookedUp` has one case for each, with the answer and what it leaves of
the cache and the gateway; `lookedUp_get` says that every look-up is one of them. A statement is sent, and a load
counted, exactly where a valid table has no schema held.
-/

namespace Audience

/-- The schema that the catalog of a warehouse has for a table, or why it has none. -/
def TableSchema.inCatalog (w : Warehouse) (t : TableRef) : Except SchemaError TableSchema :=
  ofCatalog t (Catalog.columnsIn (w (Catalog.columnsStatement t)))

namespace TableSchema

variable {w : Warehouse} {t : TableRef} {schema : TableSchema} {cause : SchemaError}

theorem ref_of_inCatalog (h : inCatalog w t = .ok schema) : schema.ref = t := by
  unfold inCatalog ofCatalog at h
  split at h
  · cases h
  · cases h
  · obtain rfl := Except.ok.inj h
    rfl

/-- The identifiers are not looked at again. -/
theorem ne_invalidIdentifier_of_inCatalog (h : inCatalog w t = .error cause) (name : String) :
    cause ≠ .invalidIdentifier name := by
  rintro rfl
  unfold inCatalog ofCatalog at h
  split at h <;> cases h

end TableSchema

namespace SchemaCache

variable {c : SchemaCache} {g : Gateway} {t other : TableRef} {schema : TableSchema}

/-! ### What is held -/

theorem ref_of_find? (h : c.find? t = some schema) : schema.ref = t := by
  simpa using List.find?_some h

theorem find?_store (c : SchemaCache) (schema : TableSchema) (t : TableRef) :
    (c.store schema).find? t = if schema.ref = t then some schema else c.find? t := by
  unfold find? store
  split
  · next h => simp [h]
  · next h =>
    rw [List.find?_cons_of_neg (by simpa using h), List.find?_filter]
    congr 1
    funext other
    by_cases hother : other.ref = t
    · simp [hother, Ne.symm h]
    · simp [hother]

/-- A schema for a table that has none comes beside the others. -/
theorem held_store (h : c.find? schema.ref = none) : (c.store schema).held = schema :: c.held := by
  have hkept : c.held.filter (fun other => other.ref ≠ schema.ref) = c.held := by
    rw [List.filter_eq_self]
    intro other hmem
    simpa using List.find?_eq_none.mp h other hmem
  rw [store, hkept]

theorem find?_invalidate (c : SchemaCache) (t other : TableRef) :
    (c.invalidate t).2.find? other = if other = t then none else c.find? other := by
  simp only [find?, invalidate, List.find?_filter]
  split
  · next h =>
    subst h
    simp
  · next h =>
    congr 1
    funext schema
    by_cases hschema : schema.ref = other
    · simp [hschema, h]
    · simp [hschema]

@[simp] theorem record_loads (c : SchemaCache) (loaded : Except SchemaError TableSchema) :
    (c.record loaded).loads = c.loads + 1 := by
  cases loaded <;> rfl

/-- A load counts for what is held only when it has a schema. -/
theorem find?_record (c : SchemaCache) {w : Warehouse} (t other : TableRef) :
    (c.record (TableSchema.inCatalog w t)).find? other =
      if t = other then (TableSchema.inCatalog w t).toOption.or (c.find? other) else c.find? other := by
  cases hanswer : TableSchema.inCatalog w t with
  | error cause => exact (ite_self _).symm
  | ok schema =>
    show ({ c with loads := c.loads + 1 }.store schema).find? other = _
    rw [find?_store, TableSchema.ref_of_inCatalog hanswer]
    rfl

/-! ### Looking up -/

/-- An answer to a look-up, and the cache and the gateway after it. -/
inductive LookedUp (c : SchemaCache) (g : Gateway) (t : TableRef) :
    Except SchemaError TableSchema → SchemaCache → Gateway → Prop
  /-- The reference is no identifier. -/
  | invalid (part : String) (found : t.firstInvalid? = some part) :
      LookedUp c g t (.error (.invalidIdentifier part)) c g
  /-- The schema is held. -/
  | held (schema : TableSchema) (valid : t.Valid) (found : c.find? t = some schema) : LookedUp c g t (.ok schema) c g
  /-- The catalog has no schema. -/
  | failed (cause : SchemaError) (valid : t.Valid) (missing : c.find? t = none)
      (answer : TableSchema.inCatalog g.answer t = .error cause) :
      LookedUp c g t (.error cause) { c with loads := c.loads + 1 } (g.send (Catalog.columnsStatement t)).2
  /-- The schema of the catalog is kept. -/
  | loaded (schema : TableSchema) (valid : t.Valid) (missing : c.find? t = none)
      (answer : TableSchema.inCatalog g.answer t = .ok schema) :
      LookedUp c g t (.ok schema) ({ c with loads := c.loads + 1 }.store schema)
        (g.send (Catalog.columnsStatement t)).2

theorem get_of_invalid (c : SchemaCache) (g : Gateway) {part : String} (h : t.firstInvalid? = some part) :
    c.get g t = (.error (.invalidIdentifier part), c, g) := by
  simp only [get, h]

theorem get_of_held (g : Gateway) (hvalid : t.Valid) (h : c.find? t = some schema) : c.get g t = (.ok schema, c, g) := by
  simp only [get, show t.firstInvalid? = none from hvalid, h]

theorem get_of_missing (g : Gateway) (hvalid : t.Valid) (h : c.find? t = none) :
    c.get g t = (TableSchema.inCatalog g.answer t, c.record (TableSchema.inCatalog g.answer t),
      (g.send (Catalog.columnsStatement t)).2) := by
  simp only [get, show t.firstInvalid? = none from hvalid, h]
  rfl

theorem lookedUp_get (c : SchemaCache) (g : Gateway) (t : TableRef) :
    LookedUp c g t (c.get g t).1 (c.get g t).2.1 (c.get g t).2.2 := by
  cases hvalid : t.firstInvalid? with
  | some part =>
    rw [get_of_invalid c g hvalid]
    exact .invalid part hvalid
  | none =>
    cases hheld : c.find? t with
    | some schema =>
      rw [get_of_held g hvalid hheld]
      exact .held schema hvalid hheld
    | none =>
      rw [get_of_missing g hvalid hheld]
      cases hanswer : TableSchema.inCatalog g.answer t with
      | error cause => exact .failed cause hvalid hheld hanswer
      | ok schema => exact .loaded schema hvalid hheld hanswer

/-- No look-up changes what the warehouse answers. -/
@[simp] theorem get_answer (c : SchemaCache) (g : Gateway) (t : TableRef) : (c.get g t).2.2.answer = g.answer := by
  have hlookup := c.lookedUp_get g t
  generalize (c.get g t).1 = answer, (c.get g t).2.1 = after, (c.get g t).2.2 = later at hlookup ⊢
  cases hlookup with
  | invalid | held => rfl
  | failed | loaded => exact g.send_answer _

end SchemaCache

end Audience
