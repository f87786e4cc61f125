import Audience.Proofs.Warehouse.Decoding
import Audience.Warehouse.Parameter

/-!
What is sent comes back. A value that is sent as a parameter, and that the warehouse answers as it was sent, is read as
the same value (`QueryParameter.decode_cell`), whatever its type and its text are. So no two values are sent alike
(`QueryParameter.ofValue_inj`), and a row of the parameters of a statement is the parameters (`QueryJob.isRow_params`).
-/

namespace Audience

namespace QueryParameter

variable {name other : String} {v w : Value} {f : Field}

/-- The cell that shows what was sent. -/
def cell (p : QueryParameter) : Json := p.value.elim .null .str

/-- The field that a parameter declares. -/
def field (p : QueryParameter) : Field := ⟨p.name, p.type, none⟩

/-- What a value is sent as is read as the value by the type that it declares. -/
theorem valueOf_text (hv : v ≠ .null) : Field.valueOf (ColumnType.normalize (typeOf v)) v.text = .ok v := by
  cases v with
  | null => exact absurd rfl hv
  | bool b =>
    have htype : ColumnType.normalize (typeOf (.bool b)) = .bool := ColumnType.normalize_name .bool
    rw [htype]
    cases b <;> rfl
  | int64 n =>
    have htype : ColumnType.normalize (typeOf (.int64 n)) = .int64 := ColumnType.normalize_name .int64
    have hread : Reading.int64 (integerText n.toInt).toList = .ok n := by
      rw [integerText, String.toList_ofList, Reading.int64_integerChars]
    rw [htype, Field.valueOf, Value.text, hread]
    rfl
  | float64 x =>
    have htype : ColumnType.normalize (typeOf (.float64 x)) = .float64 := ColumnType.normalize_name .float64
    rw [htype, Field.valueOf, Value.text, Reading.float64_text]
    rfl
  | string s =>
    have htype : ColumnType.normalize (typeOf (.string s)) = .string := ColumnType.normalize_name .string
    rw [htype]
    rfl

theorem shows_cell (hrepeated : f.isRepeated = false) (htype : f.type = ColumnType.normalize (typeOf v)) :
    f.Shows (ofValue name v).cell v := by
  rw [← Field.decode_eq_ok_iff]
  by_cases hv : v = .null
  · subst hv
    rfl
  · have hcell : (ofValue name v).cell = .str v.text := by
      cases v with
      | null => exact absurd rfl hv
      | _ => rfl
    rw [hcell, Field.decode, hrepeated, if_neg Bool.false_ne_true, htype]
    exact valueOf_text hv

/-- Under the declared type a parameter is read as the value that was sent. -/
theorem decode_cell (name : String) (v : Value) (f : Field) (hrepeated : f.isRepeated = false)
    (htype : f.typeName = (ofValue name v).type) : f.decode (ofValue name v).cell = .ok v :=
  Field.decode_eq_ok_iff.mpr (shows_cell hrepeated (congrArg ColumnType.normalize htype))

theorem decode_cell_of_extremes :
    (⟨"p0", "INT64", some "NULLABLE"⟩ : Field).decode (ofValue "p0" (.int64 Int64.minValue)).cell =
        .ok (.int64 Int64.minValue) ∧
      (⟨"p0", "FLOAT64", none⟩ : Field).decode (ofValue "p0" (.float64 (.finite (Binary64.zero true)))).cell =
        .ok (.float64 (.finite (Binary64.zero true))) ∧
      (⟨"p0", "STRING", none⟩ : Field).decode (ofValue "p0" (.string "NULL")).cell = .ok (.string "NULL") :=
  ⟨decode_cell _ _ _ rfl rfl, decode_cell _ _ _ rfl rfl, decode_cell _ _ _ rfl rfl⟩

/-- A parameter says which value was sent. -/
theorem ofValue_inj : ofValue name v = ofValue other w ↔ name = other ∧ v = w := by
  constructor
  · intro h
    have hv : (ofValue name v).field.Shows (ofValue name v).cell v := shows_cell rfl rfl
    have hw : (ofValue other w).field.Shows (ofValue other w).cell w := shows_cell rfl rfl
    rw [← h] at hw
    exact ⟨congrArg QueryParameter.name h, hv.unique hw⟩
  · rintro ⟨rfl, rfl⟩
    rfl

end QueryParameter

namespace QueryJob

/-- A row of what was sent is the parameters of the statement. -/
theorem isRow_params (s : Statement) (timeout : Nat) :
    Field.IsRow ((ofStatement s timeout).parameters.map QueryParameter.field)
      ((ofStatement s timeout).parameters.map QueryParameter.cell) s.params where
  width := by rw [List.length_map, List.length_map]
  names name := by simp [ofStatement, NameMap.names, QueryParameter.field, QueryParameter.ofValue]
  values i f cell hf hcell := by
    rw [List.getElem?_map, Option.map_eq_some_iff] at hf hcell
    obtain ⟨p, hp, rfl⟩ := hf
    obtain ⟨p', hp', rfl⟩ := hcell
    obtain rfl := Option.some.inj (hp.symm.trans hp')
    rw [ofStatement, List.getElem?_map, Option.map_eq_some_iff] at hp
    obtain ⟨e, he, rfl⟩ := hp
    exact ⟨e.2, NameMap.get?_of_mem (List.mem_of_getElem? he), QueryParameter.shows_cell rfl rfl⟩

end QueryJob

end Audience
