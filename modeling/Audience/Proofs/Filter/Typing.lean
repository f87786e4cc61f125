import Audience.Proofs.Calendar.DayMonth
import Audience.Proofs.Filter.Placeholders
import Audience.Proofs.Number.Text

/-!
The types of what is bound. Each rule for a filter binds values of one kind (`BoundFor`), and whatever the rule, a bound
value is there, is a number where it is numeric, and was no array or object (`params_typed`). The rule for days and
months reads the JSON text of values that are no strings; none of these texts names a day, since it has no comma or
ends with a bracket.
-/

namespace Audience

/-- The value is not null, and a number when it is numeric: neither infinite nor undefined. -/
def Value.IsDefinite : Value → Prop
  | .null => False
  | .float64 x => x.isFinite = true
  | _ => True

/-- The value is neither an array nor an object. -/
def Json.IsScalar : Json → Prop
  | .arr _ => False
  | .obj _ => False
  | _ => True

/-! ### Values that are no strings -/

namespace Json

theorem getLast?_writtenItems (items : List Json) : (writtenItems items).getLast? = some ']' := by
  induction items with
  | nil => rfl
  | cons j items ih => rw [writtenItems, ← List.cons_append, List.getLast?_append, ih, Option.some_or]

theorem getLast?_written_arr (items : List Json) : (written (.arr items)).getLast? = some ']' := by
  cases items with
  | nil => rfl
  | cons j items =>
    rw [written, ← List.cons_append, List.getLast?_append, getLast?_writtenItems, Option.some_or]

theorem getLast?_writtenMembers (members : List (String × Json)) :
    (writtenMembers members).getLast? = some '}' := by
  induction members with
  | nil => rfl
  | cons m members ih =>
    rw [writtenMembers, ← List.cons_append, ← List.cons_append, ← List.append_assoc, List.getLast?_append, ih,
      Option.some_or]

theorem getLast?_written_obj (members : List (String × Json)) : (written (.obj members)).getLast? = some '}' := by
  cases members with
  | nil => rfl
  | cons m members =>
    rw [written, ← List.cons_append, ← List.cons_append, ← List.append_assoc, List.getLast?_append,
      getLast?_writtenMembers, Option.some_or]

end Json

namespace Condition

variable {j : Json} {day : DayMonth} {date : String} {type : ColumnType} {v : Value}

/-- Only a string names a day and a month. -/
theorem eq_str_of_read (h : DayMonth.read (dayMonthText j) = .ok day) : ∃ s, j = .str s := by
  have hnumeral : ∀ cs : List Char, (∀ c ∈ cs, isNumeralChar c = true) → ',' ∉ cs :=
    fun cs hall hmem => absurd (hall ',' hmem) (by decide)
  cases j with
  | str s => exact ⟨s, rfl⟩
  | null => exact absurd h (DayMonth.read_ne_ok_of_no_comma (by decide))
  | bool b => exact absurd h (DayMonth.read_ne_ok_of_no_comma (by cases b <;> decide))
  | int n =>
    refine absurd h (DayMonth.read_ne_ok_of_no_comma ?_)
    rw [dayMonthText, Json.text, String.toList_ofList]
    · exact hnumeral _ fun _ => isNumeralChar_of_mem_integerChars
    · nofun
  | float x =>
    refine absurd h (DayMonth.read_ne_ok_of_no_comma ?_)
    rw [dayMonthText, Json.text, String.toList_ofList]
    · exact hnumeral _ x.isNumeralChar_of_mem_jsonText
    · nofun
  | arr items =>
    refine absurd h (DayMonth.read_ne_ok_of_closed (.inl rfl) ?_)
    rw [dayMonthText, Json.text, String.toList_ofList]
    · exact Json.getLast?_written_arr _
    · nofun
  | obj members =>
    refine absurd h (DayMonth.read_ne_ok_of_closed (.inr rfl) ?_)
    rw [dayMonthText, Json.text, String.toList_ofList]
    · exact Json.getLast?_written_obj _
    · nofun

theorem eq_str_of_dateOf (h : dateOf j = .ok date) : ∃ s, j = .str s := by
  unfold dateOf at h
  split at h
  · exact ⟨_, rfl⟩
  · cases h

/-! ### Scalars -/

/-- A scalar other than null is definite: an integer past the signed range rounds to a finite number. -/
theorem isDefinite_of_ofJson? (hnull : j ≠ .null) (h : Value.ofJson? j = some v) : v.IsDefinite := by
  cases j with
  | null => exact absurd rfl hnull
  | bool b | str s | float x =>
    obtain rfl := Option.some.inj h
    trivial
  | arr items | obj members => cases h
  | int n =>
    obtain rfl := Option.some.inj h
    split
    · trivial
    · next hrange =>
      obtain ⟨hlow, hhigh⟩ := n.in_range
      obtain ⟨x, hx, -⟩ := Float64.exists_finite_ofInt (n := n.val) (by unfold Value.InRange at hrange; omega) (by omega)
      rw [hx]
      rfl

/-- A comparand for a column of the type, made from the JSON value. -/
inductive ComparandOf (type : ColumnType) (j : Json) : Value → Prop
  | integer (n : Int64) (column : type = .int64) : ComparandOf type j (.int64 n)
  | number (x : Binary64) (column : type = .float64) : ComparandOf type j (.float64 (.finite x))
  | scalar (v : Value) (noInteger : type ≠ .int64) (noNumber : type ≠ .float64) (value : Value.ofJson? j = some v) :
      ComparandOf type j v

theorem comparandOf_comparand (h : comparand type j = .ok v) : ComparandOf type j v := by
  unfold comparand at h
  split at h
  · cases h
  · next w hw =>
    split at h
    · obtain ⟨n, -, rfl⟩ := map_eq_ok_iff.mp h
      exact .integer n rfl
    · obtain ⟨x, -, rfl⟩ := map_eq_ok_iff.mp h
      exact .number x rfl
    · next hint hfloat =>
      obtain rfl := Except.ok.inj h
      exact .scalar w hint hfloat hw

theorem isScalar_of_comparand (h : comparand type j = .ok v) : j.IsScalar := by
  cases j with
  | arr items => cases h
  | obj members => cases h
  | _ => trivial

/-! ### What is bound for a filter -/

variable {columns : Columns} {campaign : CampaignKind} {f : FilterSpec} {c : Condition} {name : String}

/-- What is bound for a filter at a position on a column of the type, by the rule that the filter falls under. -/
inductive BoundFor (type : ColumnType) (campaign : CampaignKind) (position : Nat) (f : FilterSpec) (params : Params) :
    Prop
  /-- A month and a day of a leap year. -/
  | dayMonth (month day : Int64) (s : String) (due : comparesDayMonth campaign f.column = true)
      (text : f.value = .str s)
      (boundMonth : params.get? (paramName position ++ "_month") = some (.int64 month))
      (boundDay : params.get? (paramName position ++ "_day") = some (.int64 day))
      (monthRange : 1 ≤ month.toInt ∧ month.toInt ≤ 12)
      (dayRange : 1 ≤ day.toInt ∧ day.toInt ≤ daysInMonth true month.toInt.toNat)
  /-- The text of a date. -/
  | date (date s : String) (notDue : comparesDayMonth campaign f.column = false)
      (dated : comparesDate type f.column = true) (text : f.value = .str s)
      (bound : params.get? (paramName position) = some (.string date))
  /-- A value of the column's type. -/
  | comparand (v : Value) (notDue : comparesDayMonth campaign f.column = false)
      (notDated : comparesDate type f.column = false) (typed : ComparandOf type f.value v)
      (bound : params.get? (paramName position) = some v)

theorem Arises.boundFor {params : Params} {position : Nat} (h : Arises columns campaign f c)
    (chosen : f.isWildcard = false) (hparams : ∀ name v, (name, v) ∈ c.params position → params.get? name = some v) :
    ∃ type, columns.get? f.column = some type ∧ BoundFor type campaign position f params := by
  cases h with
  | anything wildcard => exact absurd (wildcard.symm.trans chosen) (by decide)
  | @onDayMonth type day _ known due read =>
    obtain ⟨hmonth, hmonth', hday, hday'⟩ := DayMonth.valid_of_read read
    obtain ⟨s, hs⟩ := eq_str_of_read read
    have hlast := DayMonth.daysInMonth_le true day.month
    have htoMonth : (Int64.ofNat day.month).toInt = day.month := Int64.toInt_ofNat_of_lt (by omega)
    have htoDay : (Int64.ofNat day.day).toInt = day.day := Int64.toInt_ofNat_of_lt (by omega)
    refine ⟨type, known, .dayMonth _ _ s due hs (hparams _ _ List.mem_cons_self)
      (hparams _ _ (List.mem_cons_of_mem _ List.mem_cons_self)) ?_ ?_⟩
    · omega
    · rw [htoDay, htoMonth, Int.toNat_natCast]
      omega
  | @onDate type date _ known notDue dated read =>
    obtain ⟨s, hs⟩ := eq_str_of_dateOf read
    exact ⟨type, known, .date date s notDue dated hs (hparams _ _ List.mem_cons_self)⟩
  | @equals type v _ known notDue notDated read =>
    exact ⟨type, known, .comparand v notDue notDated (comparandOf_comparand read) (hparams _ _ List.mem_cons_self)⟩

theorem ComparandOf.isDefinite (h : ComparandOf type j v) (hnull : j ≠ .null) : v.IsDefinite := by
  cases h with
  | integer n => trivial
  | number x => rfl
  | scalar v _ _ value => exact isDefinite_of_ofJson? hnull value

/-- What a condition binds is definite, and its filter's value is a scalar. -/
theorem Arises.isDefinite {position : Nat} {v : Value} (h : Arises columns campaign f c)
    (hmem : (name, v) ∈ c.params position) :
    v.IsDefinite ∧ f.isWildcard = false ∧ f.value.IsScalar := by
  cases h with
  | anything => cases hmem
  | onDayMonth chosen _ _ read =>
    obtain ⟨s, hs⟩ := eq_str_of_read read
    refine ⟨?_, chosen, hs ▸ trivial⟩
    rcases List.mem_pair.mp hmem with heq | heq
    · obtain ⟨-, rfl⟩ := Prod.mk.inj heq
      trivial
    · obtain ⟨-, rfl⟩ := Prod.mk.inj heq
      trivial
  | onDate chosen _ _ _ read =>
    obtain ⟨s, hs⟩ := eq_str_of_dateOf read
    obtain ⟨-, rfl⟩ := Prod.mk.inj (List.mem_singleton.mp hmem)
    exact ⟨trivial, chosen, hs ▸ trivial⟩
  | equals chosen _ _ _ read =>
    obtain ⟨-, rfl⟩ := Prod.mk.inj (List.mem_singleton.mp hmem)
    have hnull : f.value ≠ .null := by
      intro hnull
      rw [FilterSpec.isWildcard, hnull] at chosen
      cases chosen
    exact ⟨(comparandOf_comparand read).isDefinite hnull, chosen, isScalar_of_comparand read⟩

end Condition

/-- Every filter that chooses is on a column of the schema and has values of the kind that its rule asks for, under the
names of its position. Every bound value is definite and stands for a filter that chooses, whose own value is a
scalar. -/
theorem params_typed (columns : Columns) (campaign : CampaignKind) (fs : List FilterSpec)
    {compiled : CompiledFilters} (h : compile columns fs campaign = .ok compiled) :
    (∀ i f, fs[i]? = some f → f.isWildcard = false →
        ∃ type, columns.get? f.column = some type ∧ Condition.BoundFor type campaign i f compiled.params) ∧
      ∀ name v, compiled.params.get? name = some v → v.IsDefinite ∧
        ∃ (i : Nat) (f : FilterSpec), fs[i]? = some f ∧ name ∈ f.paramNames campaign i ∧ f.isWildcard = false ∧
          f.value.IsScalar := by
  obtain ⟨conditions, hconditions, rfl⟩ := compile_eq_ok_iff.mp h
  constructor
  · intro i f hf chosen
    obtain ⟨c, hcondition, hc⟩ := hconditions.exists_condition hf
    refine (Condition.ofFilter_eq_ok_iff.mp hc).boundFor chosen fun name v hv => ?_
    exact CompiledFilters.get?_params_eq_some_iff_mem.mpr ⟨i, c, hcondition, hv⟩
  · intro name v hv
    obtain ⟨i, c, hc, hmem⟩ := CompiledFilters.get?_params_eq_some_iff_mem.mp hv
    obtain ⟨f, hf, hcondition⟩ := hconditions.getElem?_eq_some_iff.mp hc
    have harises := Condition.ofFilter_eq_ok_iff.mp hcondition
    obtain ⟨hdefinite, chosen, hscalar⟩ := harises.isDefinite hmem
    refine ⟨hdefinite, i, f, hf, ?_, chosen, hscalar⟩
    rw [← paramNames_eq harises i]
    exact List.mem_map.mpr ⟨_, hmem, rfl⟩

theorem params_typed_under_every_rule :
    ∃ compiled, compile (.ofList [("fecha_pago", .string), ("alta", .date), ("edad", .int64), ("saldo", .float64),
          ("activo", .bool)])
        [⟨"fecha_pago", "", .str "lunes, 29 de febrero"⟩, ⟨"alta", "", .str "2024-02-28T10:00"⟩,
          ⟨"edad", "", .str " 30 "⟩, ⟨"saldo", "", .str "1e3"⟩, ⟨"activo", "", .bool true⟩,
          ⟨"ciudad", "", .null⟩] .fidelity = .ok compiled ∧
      (∃ type, Condition.BoundFor type .fidelity 3 ⟨"saldo", "", .str "1e3"⟩ compiled.params) ∧
      ∀ name v, compiled.params.get? name = some v → v.IsDefinite := by
  have hcompile : compile (.ofList [("fecha_pago", .string), ("alta", .date), ("edad", .int64), ("saldo", .float64),
          ("activo", .bool)])
        [⟨"fecha_pago", "", .str "lunes, 29 de febrero"⟩, ⟨"alta", "", .str "2024-02-28T10:00"⟩,
          ⟨"edad", "", .str " 30 "⟩, ⟨"saldo", "", .str "1e3"⟩, ⟨"activo", "", .bool true⟩,
          ⟨"ciudad", "", .null⟩] .fidelity = .ok _ := rfl
  obtain ⟨hchosen, hbound⟩ := params_typed _ _ _ hcompile
  obtain ⟨type, -, hsaldo⟩ := hchosen 3 ⟨"saldo", "", .str "1e3"⟩ rfl rfl
  exact ⟨_, hcompile, ⟨type, hsaldo⟩, fun name v hv => (hbound name v hv).1⟩

end Audience
