import Audience.Proofs.Filter.FirstError
import Audience.Proofs.Filter.Typing

/-!
The rule for equality. A filter on a column that neither a campaign nor its type compares by day binds what its value
becomes for the type of the column (`exists_comparand_of_compile`). Where the other filters have no error, its own value
alone decides what the compilation ends with (`compile_of_comparand`, `compile_of_no_comparand`).
-/

namespace Audience

open Condition

/-- The column has the type and is compared by value: the campaign does not compare it by day and month, and neither its
type nor its name makes it one of days. -/
structure ComparedByValue (columns : Columns) (campaign : CampaignKind) (column : String) (type : ColumnType) : Prop where
  known : columns.get? column = some type
  notDue : comparesDayMonth campaign column = false
  notDated : comparesDate type column = false

variable {columns : Columns} {campaign : CampaignKind} {fs : List FilterSpec} {f : FilterSpec} {type : ColumnType}
  {i : Nat} {j : Json} {v : Value}

/-! ### Scalars -/

theorem isScalar_iff : j.IsScalar ↔ ∃ v, Value.ofJson? j = some v := by
  cases j <;> simp [Json.IsScalar, Value.ofJson?]

theorem comparand_of_not_isScalar (h : ¬j.IsScalar) : comparand type j = .error .unsupportedValue := by
  have hnone : Value.ofJson? j = none :=
    Option.eq_none_iff_forall_not_mem.mpr fun v hv => h (isScalar_iff.mpr ⟨v, hv⟩)
  rw [comparand, hnone]

/-! ### Filters under the rule -/

theorem ComparedByValue.ofFilter (hrule : ComparedByValue columns campaign f.column type)
    (chosen : f.isWildcard = false) :
    Condition.ofFilter columns campaign f = (comparand type f.value).map (.equals f.column) := by
  simp [Condition.ofFilter, chosen, hrule.known, hrule.notDue, hrule.notDated]

theorem get?_equals {cs : List Condition} {column : String} (hi : cs[i]? = some (.equals column v)) :
    (CompiledFilters.ofConditions cs).params.get? (paramName i) = some v :=
  CompiledFilters.get?_params_eq_some_iff_mem.mpr ⟨i, _, hi, List.mem_singleton_self _⟩

/-- A filter under the rule binds its comparand. -/
theorem exists_comparand_of_compile {compiled : CompiledFilters} (h : compile columns fs campaign = .ok compiled)
    (hf : fs[i]? = some f) (hrule : ComparedByValue columns campaign f.column type) (chosen : f.isWildcard = false) :
    ∃ v, comparand type f.value = .ok v ∧ compiled.params.get? (paramName i) = some v := by
  obtain ⟨cs, hcs, rfl⟩ := compile_eq_ok_iff.mp h
  obtain ⟨c, hi, hc⟩ := hcs.exists_condition hf
  rw [hrule.ofFilter chosen, map_eq_ok_iff] at hc
  obtain ⟨v, hv, rfl⟩ := hc
  exact ⟨v, hv, get?_equals hi⟩

theorem compile_of_comparand (hf : fs[i]? = some f) (hrule : ComparedByValue columns campaign f.column type)
    (chosen : f.isWildcard = false) (hothers : ∀ j g, j ≠ i → fs[j]? = some g → ¬FailsAlone columns campaign g)
    (hv : comparand type f.value = .ok v) : ∃ compiled, compile columns fs campaign = .ok compiled := by
  have hc : Condition.ofFilter columns campaign f = .ok (.equals f.column v) := by
    rw [hrule.ofFilter chosen, hv]
    rfl
  obtain ⟨cs, hcs, -⟩ := exists_conditions_of_others hf hc hothers
  exact ⟨_, compile_eq_ok_iff.mpr ⟨cs, hcs, rfl⟩⟩

theorem compile_of_no_comparand {cause : ConditionError} (hf : fs[i]? = some f)
    (hrule : ComparedByValue columns campaign f.column type) (chosen : f.isWildcard = false)
    (hothers : ∀ j g, j ≠ i → fs[j]? = some g → ¬FailsAlone columns campaign g)
    (hcause : comparand type f.value = .error cause) :
    compile columns fs campaign = .error ⟨i, f.column, cause⟩ := by
  refine compile_eq_error_of_others hf ?_ hothers
  rw [hrule.ofFilter chosen, hcause]
  rfl

end Audience
