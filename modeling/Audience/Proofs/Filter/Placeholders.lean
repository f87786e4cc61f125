import Audience.Proofs.Filter.Compilation
import Mathlib.Data.List.TakeWhile

/-!
Placeholders in the text of a compilation. Read from the left, the text has the names that its filters contribute,
position by position, each once, and these are the names that are bound (`placeholders_are_bound`). Between two
predicates stands a space, which ends a name, so the names of the joined text are those of the predicates.
-/

namespace Audience

/-- A character of a placeholder's name. -/
def isWordChar (c : Char) : Bool := c.isAlphanum || c == '_'

/-- The names behind each `@`, from left to right, each as long as it can be. -/
def namesBehindAt : List Char → List (List Char)
  | [] => []
  | c :: cs =>
    if c = '@' ∧ cs.takeWhile isWordChar ≠ [] then cs.takeWhile isWordChar :: namesBehindAt cs
    else namesBehindAt cs

/-- The names of the placeholders in a text, from left to right. -/
def placeholders (text : String) : List String := (namesBehindAt text.toList).map String.ofList

/-- The names that a filter contributes at a position: none when every row passes, two when a day and a month are
compared, else one. -/
def FilterSpec.paramNames (campaign : CampaignKind) (position : Nat) (f : FilterSpec) : List String :=
  if f.isWildcard then []
  else if Condition.comparesDayMonth campaign f.column then
    [Condition.paramName position ++ "_month", Condition.paramName position ++ "_day"]
  else [Condition.paramName position]

/-! ### Reading a text -/

variable {cs rest name : List Char} {d : Char}

theorem namesBehindAt_of_not_mem (h : '@' ∉ cs) : namesBehindAt cs = [] := by
  induction cs with
  | nil => rfl
  | cons c cs ih =>
    obtain ⟨hc, hcs⟩ := not_or.mp (mt List.mem_cons.mpr h)
    rw [namesBehindAt, if_neg fun hat => hc hat.1.symm, ih hcs]

/-- A name ends where a character stands that belongs to none. -/
theorem takeWhile_isWordChar_append (h : isWordChar d = false) :
    (cs ++ d :: rest).takeWhile isWordChar = cs.takeWhile isWordChar := by
  rw [List.takeWhile_append, List.takeWhile_cons_of_neg (by simp [h])]
  split
  · next hall =>
    rw [List.append_nil]
    exact ((List.takeWhile_sublist isWordChar).eq_of_length hall).symm
  · rfl

theorem namesBehindAt_append (h : isWordChar d = false) :
    namesBehindAt (cs ++ d :: rest) = namesBehindAt cs ++ namesBehindAt (d :: rest) := by
  induction cs with
  | nil => rfl
  | cons c cs ih =>
    rw [List.cons_append, namesBehindAt, namesBehindAt, takeWhile_isWordChar_append h, ih]
    split <;> rfl

theorem namesBehindAt_at (hbefore : '@' ∉ cs) (hname : ∀ c ∈ name, isWordChar c = true) (hne : name ≠ []) :
    namesBehindAt (cs ++ '@' :: name) = [name] := by
  have hat : '@' ∉ name := fun hmem => absurd (hname '@' hmem) (by decide)
  have hwhole : name.takeWhile isWordChar = name := List.takeWhile_eq_self_iff.mpr hname
  rw [namesBehindAt_append (by decide), namesBehindAt_of_not_mem hbefore, namesBehindAt, hwhole,
    if_pos ⟨rfl, hne⟩, namesBehindAt_of_not_mem hat, List.nil_append]

theorem namesBehindAt_intercalate (parts : List (List Char)) :
    namesBehindAt (" AND ".toList.intercalate parts) = parts.flatMap namesBehindAt := by
  induction parts with
  | nil => rfl
  | cons part parts ih =>
    cases parts with
    | nil => simp
    | cons next parts =>
      have hword : namesBehindAt (" AND ".toList ++ " AND ".toList.intercalate (next :: parts)) =
          namesBehindAt (" AND ".toList.intercalate (next :: parts)) := rfl
      rw [List.intercalate_cons_cons, List.append_assoc, List.flatMap_cons, ← ih, ← hword]
      exact namesBehindAt_append (d := ' ') (by decide)

theorem placeholders_joined (ps : List String) :
    placeholders (CompiledFilters.joined ps) = ps.flatMap placeholders := by
  cases ps with
  | nil => rfl
  | cons p ps =>
    rw [CompiledFilters.joined, placeholders, String.toList_intercalate, namesBehindAt_intercalate, List.flatMap_map,
      List.map_flatMap]
    · rfl
    · nofun

/-! ### The names of a condition -/

theorem isWordChar_of_mem_paramName {position : Nat} {c : Char}
    (h : c ∈ (Condition.paramName position).toList) : isWordChar c = true := by
  rw [Condition.paramName, String.toList_append, List.mem_append, Nat.toString_eq_repr, Nat.toList_repr] at h
  rcases h with h | h
  · have hstem : ∀ c ∈ "val".toList, isWordChar c = true := by simp [isWordChar]
    exact hstem c h
  · have hdigit := Nat.isDigit_of_mem_toDigits (by decide) (by decide) h
    simp [isWordChar, Char.isAlphanum, hdigit]

/-- A predicate that ends with a parameter's name has this one placeholder. -/
theorem placeholders_at (before ending : String) (position : Nat) (hbefore : '@' ∉ before.toList)
    (hending : ∀ c ∈ ending.toList, isWordChar c = true) :
    placeholders (before ++ "@" ++ Condition.paramName position ++ ending) =
      [Condition.paramName position ++ ending] := by
  have hname : ∀ c ∈ (Condition.paramName position ++ ending).toList, isWordChar c = true := by
    intro c hc
    rw [String.toList_append, List.mem_append] at hc
    rcases hc with hc | hc
    · exact isWordChar_of_mem_paramName hc
    · exact hending c hc
  have hne : (Condition.paramName position ++ ending).toList ≠ [] := by
    simp [Condition.paramName]
  have h := namesBehindAt_at hbefore hname hne
  rw [String.append_assoc, String.append_assoc, placeholders, String.toList_append, String.toList_append]
  simpa using congrArg (List.map String.ofList) h

variable {columns : Columns} {campaign : CampaignKind} {f : FilterSpec} {c : Condition}

theorem not_mem_append (before after : String) {column : String} (hbefore : '@' ∉ before.toList)
    (hcolumn : '@' ∉ column.toList) (hafter : '@' ∉ after.toList) : '@' ∉ (before ++ column ++ after).toList := by
  simp only [String.toList_append, List.mem_append, not_or]
  exact ⟨⟨hbefore, hcolumn⟩, hafter⟩

theorem placeholders_predicates (hcolumns : ∀ column ∈ columns.names, '@' ∉ column.toList)
    (h : Condition.Arises columns campaign f c) (position : Nat) :
    (c.predicates position).flatMap placeholders = f.paramNames campaign position := by
  have hknown : ∀ {type}, columns.get? f.column = some type → '@' ∉ f.column.toList := fun known =>
    hcolumns f.column (NameMap.mem_names_iff.mpr (Option.isSome_of_eq_some known))
  cases h with
  | anything wildcard =>
    rw [FilterSpec.paramNames, if_pos wildcard]
    rfl
  | equals chosen known notDue =>
    have hbefore := not_mem_append "" " = " (by decide) (hknown known) (by decide)
    have h := placeholders_at _ "" position hbefore (by simp)
    simpa [Condition.predicates, FilterSpec.paramNames, chosen, notDue, String.append_assoc] using h
  | onDate chosen known notDue =>
    have hbefore := not_mem_append "DATE(" ") = " (by decide) (hknown known) (by decide)
    have h := placeholders_at _ "" position hbefore (by simp)
    simpa [Condition.predicates, FilterSpec.paramNames, chosen, notDue, String.append_assoc] using h
  | onDayMonth chosen known due =>
    have hbefore := not_mem_append "EXTRACT(MONTH FROM DATE(" ")) = " (by decide) (hknown known) (by decide)
    have hbefore' := not_mem_append "EXTRACT(DAY FROM DATE(" ")) = " (by decide) (hknown known) (by decide)
    have hmonth := placeholders_at _ "_month" position hbefore (by simp [isWordChar])
    have hday := placeholders_at _ "_day" position hbefore' (by simp [isWordChar])
    rw [FilterSpec.paramNames, chosen, due]
    simpa [Condition.predicates, String.append_assoc] using congrArg₂ (· ++ ·) hmonth hday

theorem paramNames_eq (h : Condition.Arises columns campaign f c) (position : Nat) :
    (c.params position).map (·.1) = f.paramNames campaign position := by
  cases h with
  | anything wildcard => simp [Condition.params, FilterSpec.paramNames, wildcard]
  | equals chosen _ notDue | onDate chosen _ notDue =>
    simp [Condition.params, FilterSpec.paramNames, chosen, notDue]
  | onDayMonth chosen _ due => simp [Condition.params, FilterSpec.paramNames, chosen, due]

/-! ### The names of a compilation -/

variable {fs : List FilterSpec} {conditions : List Condition}

namespace CompiledFilters

theorem map_paramsFrom (h : AreConditions columns campaign fs conditions) (position : Nat) :
    (paramsFrom position conditions).map (·.1) =
      (fs.mapIdx fun i f => f.paramNames campaign (position + i)).flatten := by
  unfold AreConditions at h
  induction h generalizing position with
  | nil => rfl
  | cons hf _ ih =>
    rw [paramsFrom, List.map_append, paramNames_eq (Condition.ofFilter_eq_ok_iff.mp hf), ih]
    simp [Nat.add_assoc, Nat.add_comm 1]

theorem placeholders_predicatesFrom (hcolumns : ∀ column ∈ columns.names, '@' ∉ column.toList)
    (h : AreConditions columns campaign fs conditions) (position : Nat) :
    (predicatesFrom position conditions).flatMap placeholders = (paramsFrom position conditions).map (·.1) := by
  unfold AreConditions at h
  induction h generalizing position with
  | nil => rfl
  | cons hf _ ih =>
    have harises := Condition.ofFilter_eq_ok_iff.mp hf
    rw [predicatesFrom, paramsFrom, List.flatMap_append, List.map_append, placeholders_predicates hcolumns harises,
      paramNames_eq harises, ih]

theorem nodup_params (position : Nat) (c : Condition) : ((c.params position).map (·.1)).Nodup := by
  cases c with
  | onDayMonth column day => simp [Condition.params, String.append_right_inj]
  | _ => simp [Condition.params]

/-- No name is bound twice: within a position the endings differ, and a name tells its position. -/
theorem nodup_paramsFrom (position : Nat) (conditions : List Condition) :
    ((paramsFrom position conditions).map (·.1)).Nodup := by
  induction conditions generalizing position with
  | nil => exact List.nodup_nil
  | cons c rest ih =>
    rw [paramsFrom, List.map_append, List.nodup_append]
    refine ⟨nodup_params position c, ih (position + 1), ?_⟩
    rintro name hfirst _ hlater rfl
    obtain ⟨⟨_, v⟩, hv, rfl⟩ := List.mem_map.mp hfirst
    obtain ⟨⟨_, w⟩, hw, rfl⟩ := List.mem_map.mp hlater
    obtain ⟨i, d, -, hw⟩ := mem_paramsFrom_iff.mp hw
    obtain ⟨ending, hending, hname⟩ := Condition.exists_ending_of_mem_params hv
    obtain ⟨other, hother, hname'⟩ := Condition.exists_ending_of_mem_params hw
    obtain ⟨hposition, -⟩ := Condition.paramName_append_inj hending hother (hname.symm.trans hname')
    omega

theorem mem_names_params_iff {name : String} :
    name ∈ (ofConditions conditions).params.names ↔ name ∈ (paramsFrom 0 conditions).map (·.1) := by
  rw [NameMap.mem_names_iff, Option.isSome_iff_exists, List.mem_map]
  simp only [get?_params_eq_some_iff_mem, mem_paramsFrom_iff, Prod.exists, Nat.zero_add]
  constructor
  · rintro ⟨v, i, c, hc, hv⟩
    exact ⟨name, v, ⟨i, c, hc, hv⟩, rfl⟩
  · rintro ⟨_, v, ⟨i, c, hc, hv⟩, rfl⟩
    exact ⟨v, i, c, hc, hv⟩

end CompiledFilters

/-- The placeholders of a compiled text are the names that its filters contribute, in their order and without
repetition, and the names that are bound are the same. Each filter finds its own values under its names. -/
theorem placeholders_are_bound (columns : Columns) (campaign : CampaignKind) (fs : List FilterSpec)
    {compiled : CompiledFilters} (hcolumns : ∀ column ∈ columns.names, '@' ∉ column.toList)
    (h : compile columns fs campaign = .ok compiled) :
    placeholders compiled.whereText = (fs.mapIdx fun i f => f.paramNames campaign i).flatten ∧
      (placeholders compiled.whereText).Nodup ∧
      (∀ name, name ∈ placeholders compiled.whereText ↔ name ∈ compiled.params.names) ∧
      ∀ i f c, fs[i]? = some f → Condition.ofFilter columns campaign f = .ok c →
        ∀ name v, (name, v) ∈ c.params i → compiled.params.get? name = some v := by
  obtain ⟨conditions, hconditions, rfl⟩ := compile_eq_ok_iff.mp h
  have htext : placeholders (CompiledFilters.ofConditions conditions).whereText =
      (CompiledFilters.paramsFrom 0 conditions).map (·.1) := by
    rw [CompiledFilters.ofConditions, placeholders_joined,
      CompiledFilters.placeholders_predicatesFrom hcolumns hconditions]
  refine ⟨?_, ?_, fun name => ?_, fun i f c hf hc name v hv => ?_⟩
  · simpa only [Nat.zero_add] using htext.trans (CompiledFilters.map_paramsFrom hconditions 0)
  · rw [htext]
    exact CompiledFilters.nodup_paramsFrom 0 conditions
  · rw [htext, CompiledFilters.mem_names_params_iff]
  · exact CompiledFilters.get?_params_eq_some_iff_mem.mpr
      ⟨i, c, hconditions.getElem?_eq_some_iff.mpr ⟨f, hf, hc⟩, hv⟩

/-- A day and a month at the eleventh position: `val10_month` and `val10_day` keep apart from `val1`. -/
theorem placeholders_are_bound_at_two_digits :
    (∀ column ∈ (NameMap.ofList [("ciudad", ColumnType.string), ("fecha_pago", .date)]).names, '@' ∉ column.toList) ∧
      ∃ compiled, compile (NameMap.ofList [("ciudad", .string), ("fecha_pago", .date)])
          (⟨"edad", "", .null⟩ :: ⟨"ciudad", "", .str "@val10"⟩ :: List.replicate 8 ⟨"edad", "", .null⟩ ++
            [⟨"fecha_pago", "", .str "lunes, 5 de mayo"⟩]) .fidelity = .ok compiled ∧
        placeholders compiled.whereText = ["val1", "val10_month", "val10_day"] := by
  have hcolumns : ∀ column ∈ (NameMap.ofList [("ciudad", ColumnType.string), ("fecha_pago", .date)]).names,
      '@' ∉ column.toList := by decide +kernel
  have hcompile : compile (NameMap.ofList [("ciudad", .string), ("fecha_pago", .date)])
      (⟨"edad", "", .null⟩ :: ⟨"ciudad", "", .str "@val10"⟩ :: List.replicate 8 ⟨"edad", "", .null⟩ ++
        [⟨"fecha_pago", "", .str "lunes, 5 de mayo"⟩]) .fidelity = .ok _ := rfl
  obtain ⟨hnames, -⟩ := placeholders_are_bound _ _ _ hcolumns hcompile
  exact ⟨hcolumns, _, hcompile, hnames.trans (by decide +kernel)⟩

end Audience
