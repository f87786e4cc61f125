import Audience.Proofs.Catalog.Lookup
import Audience.Proofs.Outcome

/-!
What a schema is loaded from. `TableSchema.MadeOf` says of the rows that the catalog answers with which schema they
give: every row has to name a column and its type, there has to be one, and the last row with a name decides.
`inCatalog_eq_ok_iff` says that a table has a schema in the catalog exactly when it is made of such rows, and
`exists_inCatalog_eq_error_iff` what stands in the way otherwise.
-/

namespace Audience

namespace Catalog

/-! ### Rows of the catalog -/

/-- The text in a column of a row, when there is one. -/
def textIn? (row : Row) (column : String) : Option String := (row.get? column).bind Value.str?

/-- The row names a column and its type. -/
def Describes (row : Row) : Prop :=
  (textIn? row "column_name").isSome ∧ (textIn? row "data_type").isSome

/-- The type that rows give to a column: what the last row with its name says, in canonical form. -/
def typeIn (rows : List Row) (name : String) : Option ColumnType :=
  ((rows.reverse.find? fun row => textIn? row "column_name" = some name).bind (textIn? · "data_type")).map
    ColumnType.normalize

variable {row : Row} {rows : List Row} {column s name : String} {d : ColumnDescriptor} {ds : List ColumnDescriptor}

theorem textIn_eq_ok_iff : textIn row column = .ok s ↔ textIn? row column = some s := by
  unfold textIn textIn?
  cases (row.get? column).bind Value.str? <;> simp

theorem texts_of_columnOf (h : columnOf row = .ok d) :
    textIn? row "column_name" = some d.name ∧ textIn? row "data_type" = some d.dataType := by
  unfold columnOf at h
  cases htype : textIn row "data_type" with
  | error e => simp [htype, bind, Except.bind] at h
  | ok type =>
    cases hname : textIn row "column_name" with
    | error e => simp [htype, hname, bind, Except.bind] at h
    | ok name =>
      simp only [htype, hname, bind, Except.bind, pure, Except.pure, Except.ok.injEq] at h
      subst h
      exact ⟨textIn_eq_ok_iff.mp hname, textIn_eq_ok_iff.mp htype⟩

theorem exists_columnOf_iff : (∃ d, columnOf row = .ok d) ↔ Describes row := by
  constructor
  · rintro ⟨d, h⟩
    obtain ⟨hname, htype⟩ := texts_of_columnOf h
    exact ⟨by simp [hname], by simp [htype]⟩
  · rintro ⟨hname, htype⟩
    obtain ⟨name, hname⟩ := Option.isSome_iff_exists.mp hname
    obtain ⟨type, htype⟩ := Option.isSome_iff_exists.mp htype
    unfold columnOf
    rw [textIn_eq_ok_iff.mpr hname, textIn_eq_ok_iff.mpr htype]
    exact ⟨_, rfl⟩

theorem lookup_columns (h : List.Forall₂ (fun row d => columnOf row = .ok d) rows ds) (name : String) :
    (ds.map fun c => (c.name, ColumnType.normalize c.dataType)).lookup name =
      ((rows.find? fun row => textIn? row "column_name" = some name).bind (textIn? · "data_type")).map
        ColumnType.normalize := by
  induction h with
  | nil => rfl
  | @cons row d rows ds hrow _ ih =>
    obtain ⟨hname, htype⟩ := texts_of_columnOf hrow
    rw [List.map_cons, List.lookup_cons, ih, List.find?_cons]
    by_cases h : name = d.name
    · simp [h, hname, htype]
    · simp [beq_false_of_ne h, hname, Ne.symm h]

end Catalog

namespace TableSchema

/-- The schema of the table that the rows give. -/
structure MadeOf (schema : TableSchema) (t : TableRef) (rows : List Row) : Prop where
  ref : schema.ref = t
  nonempty : rows ≠ []
  described : ∀ row ∈ rows, Catalog.Describes row
  types : ∀ name, schema.columns.get? name = Catalog.typeIn rows name

variable {w : Warehouse} {t : TableRef} {schema other : TableSchema} {rows : List Row} {ds : List ColumnDescriptor}

theorem MadeOf.unique (h : schema.MadeOf t rows) (h' : other.MadeOf t rows) : schema = other := by
  obtain ⟨ref, columns⟩ := schema
  obtain ⟨ref', columns'⟩ := other
  obtain rfl : ref = ref' := h.ref.trans h'.ref.symm
  obtain rfl : columns = columns' := NameMap.ext_get? fun name => (h.types name).trans (h'.types name).symm
  rfl

theorem madeOf_ofColumns (h : rows.mapM Catalog.columnOf = .ok ds) (hne : ds ≠ []) : (ofColumns t ds).MadeOf t rows where
  ref := rfl
  nonempty := by
    rintro rfl
    exact hne (List.forall₂_nil_left_iff.mp (mapM_eq_ok_iff.mp h))
  described := fun row hrow => Catalog.exists_columnOf_iff.mp (exists_mapM_eq_ok_iff.mp ⟨ds, h⟩ row hrow)
  types := fun name => by
    -- The last column of a name counts, so the names are looked up from the end.
    have hreverse := List.rel_reverse (mapM_eq_ok_iff.mp h)
    rw [ofColumns, NameMap.get?_ofList, ← List.map_reverse, Catalog.lookup_columns hreverse, Catalog.typeIn]

/-- Rows that name their columns and types make a schema when there are any. -/
theorem exists_madeOf_iff :
    (∃ schema : TableSchema, schema.MadeOf t rows) ↔ rows ≠ [] ∧ ∀ row ∈ rows, Catalog.Describes row := by
  constructor
  · rintro ⟨schema, h⟩
    exact ⟨h.nonempty, h.described⟩
  · rintro ⟨hne, hall⟩
    obtain ⟨ds, hds⟩ := exists_mapM_eq_ok_iff.mpr fun row hrow => Catalog.exists_columnOf_iff.mpr (hall row hrow)
    refine ⟨_, madeOf_ofColumns hds ?_⟩
    rintro rfl
    exact hne (List.forall₂_nil_right_iff.mp (mapM_eq_ok_iff.mp hds))

/-- A table has a schema in the catalog when the catalog answers with rows that make it. -/
theorem inCatalog_eq_ok_iff :
    inCatalog w t = .ok schema ↔ ∃ rows, w (Catalog.columnsStatement t) = .ok rows ∧ schema.MadeOf t rows := by
  unfold inCatalog
  constructor
  · intro h
    cases hanswer : w (Catalog.columnsStatement t) with
    | error e => simp [hanswer, Catalog.columnsIn, ofCatalog, bind, Except.bind] at h
    | ok rows =>
      rw [hanswer] at h
      replace h : ofCatalog t (rows.mapM Catalog.columnOf) = .ok schema := h
      unfold ofCatalog at h
      split at h
      · cases h
      · cases h
      · next ds hne hds =>
        obtain rfl := Except.ok.inj h
        exact ⟨rows, rfl, madeOf_ofColumns hds hne⟩
  · rintro ⟨rows, hanswer, hmade⟩
    obtain ⟨ds, hds⟩ := exists_mapM_eq_ok_iff.mpr fun row hrow =>
      Catalog.exists_columnOf_iff.mpr (hmade.described row hrow)
    have hne : ds ≠ [] := by
      rintro rfl
      exact hmade.nonempty (List.forall₂_nil_right_iff.mp (mapM_eq_ok_iff.mp hds))
    rw [hanswer]
    show ofCatalog t (rows.mapM Catalog.columnOf) = .ok schema
    rw [hds, ofCatalog]
    · exact congrArg Except.ok ((madeOf_ofColumns hds hne).unique hmade)
    · exact hne

/-- What keeps a table from a schema: the catalog fails, it has no columns, or a row lacks a text. -/
theorem exists_inCatalog_eq_error_iff :
    (∃ cause, inCatalog w t = .error cause) ↔
      (∃ cause, w (Catalog.columnsStatement t) = .error cause) ∨ w (Catalog.columnsStatement t) = .ok [] ∨
        ∃ rows, w (Catalog.columnsStatement t) = .ok rows ∧ ∃ row ∈ rows, ¬Catalog.Describes row := by
  have hnot : (∃ cause, inCatalog w t = .error cause) ↔ ¬∃ schema, inCatalog w t = .ok schema := by
    cases inCatalog w t <;> simp
  rw [hnot]
  simp only [inCatalog_eq_ok_iff]
  rw [exists_comm]
  simp only [exists_and_left, exists_madeOf_iff]
  cases w (Catalog.columnsStatement t) with
  | error cause => simp
  | ok rows => by_cases hrows : rows = [] <;> simp [hrows]

end TableSchema

end Audience
