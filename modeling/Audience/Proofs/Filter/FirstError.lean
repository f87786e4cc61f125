import Audience.Proofs.Filter.Compilation

/-!
Which error a compilation ends with. A filter that has no condition has none wherever it stands and whatever stands
beside it, so a list fails when one of its filters fails alone (`compile_fails_iff`), and its error is that of the first
such filter with the position put in (`compile_error_is_of_first`).
-/

namespace Audience

variable {columns : Columns} {campaign : CampaignKind} {fs : List FilterSpec} {f : FilterSpec} {e : CompileError}

/-- Compiling the filter alone is an error. -/
def FailsAlone (columns : Columns) (campaign : CampaignKind) (f : FilterSpec) : Prop :=
  ∃ e, compile columns [f] campaign = .error e

/-- The filter at the position fails alone, and none before it does. -/
structure FirstFailing (columns : Columns) (campaign : CampaignKind) (fs : List FilterSpec) (i : Nat)
    (f : FilterSpec) : Prop where
  stands : fs[i]? = some f
  fails : FailsAlone columns campaign f
  earlier : ∀ j < i, ∀ g, fs[j]? = some g → ¬FailsAlone columns campaign g

/-! ### The first filter without a condition -/

/-- The filters up to a position have conditions and the one there has none, for the cause. -/
def FirstWithout (columns : Columns) (campaign : CampaignKind) (fs : List FilterSpec) (i : Nat) (f : FilterSpec)
    (cause : ConditionError) : Prop :=
  fs[i]? = some f ∧ Condition.ofFilter columns campaign f = .error cause ∧
    ∀ j < i, ∀ g, fs[j]? = some g → ∃ c, Condition.ofFilter columns campaign g = .ok c

theorem firstWithout_zero_iff {rest : List FilterSpec} {g : FilterSpec} {cause : ConditionError} :
    FirstWithout columns campaign (f :: rest) 0 g cause ↔ g = f ∧ Condition.ofFilter columns campaign f = .error cause := by
  constructor
  · rintro ⟨hg, hcause, -⟩
    obtain rfl := Option.some.inj hg
    exact ⟨rfl, hcause⟩
  · rintro ⟨rfl, hcause⟩
    exact ⟨rfl, hcause, fun j hj => absurd hj (Nat.not_lt_zero j)⟩

theorem firstWithout_succ_iff {rest : List FilterSpec} {g : FilterSpec} {cause : ConditionError} {i : Nat} :
    FirstWithout columns campaign (f :: rest) (i + 1) g cause ↔
      (∃ c, Condition.ofFilter columns campaign f = .ok c) ∧ FirstWithout columns campaign rest i g cause := by
  constructor
  · rintro ⟨hg, hcause, hearlier⟩
    exact ⟨hearlier 0 (Nat.succ_pos i) f rfl, hg, hcause, fun j hj => hearlier (j + 1) (Nat.succ_lt_succ hj)⟩
  · rintro ⟨hf, hg, hcause, hearlier⟩
    refine ⟨hg, hcause, fun j hj => ?_⟩
    cases j with
    | zero =>
      intro h hh
      obtain rfl := Option.some.inj hh
      exact hf
    | succ j => exact hearlier j (Nat.lt_of_succ_lt_succ hj)

theorem conditionsFrom_eq_error_iff {position : Nat} :
    conditionsFrom columns campaign position fs = .error e ↔
      ∃ i f cause, FirstWithout columns campaign fs i f cause ∧ e = ⟨position + i, f.column, cause⟩ := by
  induction fs generalizing position with
  | nil => simp [conditionsFrom, FirstWithout]
  | cons f rest ih =>
    rw [conditionsFrom]
    cases hf : Condition.ofFilter columns campaign f with
    | error cause =>
      constructor
      · intro h
        exact ⟨0, f, cause, firstWithout_zero_iff.mpr ⟨rfl, hf⟩, (Except.error.inj h).symm⟩
      · rintro ⟨i, g, cause', hfirst, rfl⟩
        cases i with
        | zero =>
          obtain ⟨rfl, hcause⟩ := firstWithout_zero_iff.mp hfirst
          obtain rfl := Except.error.inj (hf.symm.trans hcause)
          rfl
        | succ i =>
          obtain ⟨⟨c, hc⟩, -⟩ := firstWithout_succ_iff.mp hfirst
          cases hf.symm.trans hc
    | ok c =>
      rw [map_eq_error_iff, ih]
      constructor
      · rintro ⟨i, g, cause, hfirst, rfl⟩
        exact ⟨i + 1, g, cause, firstWithout_succ_iff.mpr ⟨⟨c, hf⟩, hfirst⟩, by rw [Nat.add_right_comm]; rfl⟩
      · rintro ⟨i, g, cause, hfirst, rfl⟩
        cases i with
        | zero =>
          obtain ⟨-, hcause⟩ := firstWithout_zero_iff.mp hfirst
          cases hf.symm.trans hcause
        | succ i =>
          exact ⟨i, g, cause, (firstWithout_succ_iff.mp hfirst).2, by rw [Nat.add_right_comm]; rfl⟩

theorem compile_eq_error_iff : compile columns fs campaign = .error e ↔
    ∃ i f cause, FirstWithout columns campaign fs i f cause ∧ e = ⟨i, f.column, cause⟩ := by
  simp only [compile, map_eq_error_iff, conditionsFrom_eq_error_iff, Nat.zero_add]

/-! ### Filters alone -/

theorem compile_alone_eq_error_iff : compile columns [f] campaign = .error e ↔
    ∃ cause, Condition.ofFilter columns campaign f = .error cause ∧ e = ⟨0, f.column, cause⟩ := by
  rw [compile_eq_error_iff]
  constructor
  · rintro ⟨i, g, cause, hfirst, rfl⟩
    cases i with
    | zero =>
      obtain ⟨rfl, hcause⟩ := firstWithout_zero_iff.mp hfirst
      exact ⟨cause, hcause, rfl⟩
    | succ i => cases (firstWithout_succ_iff.mp hfirst).2.1
  · rintro ⟨cause, hcause, rfl⟩
    exact ⟨0, f, cause, firstWithout_zero_iff.mpr ⟨rfl, hcause⟩, rfl⟩

theorem not_failsAlone_iff : ¬FailsAlone columns campaign f ↔ ∃ c, Condition.ofFilter columns campaign f = .ok c := by
  simp only [FailsAlone, compile_alone_eq_error_iff]
  cases Condition.ofFilter columns campaign f <;> simp

theorem firstFailing_iff {i : Nat} :
    FirstFailing columns campaign fs i f ↔ ∃ cause, FirstWithout columns campaign fs i f cause := by
  constructor
  · rintro ⟨hf, ⟨e, he⟩, hearlier⟩
    obtain ⟨cause, hcause, -⟩ := compile_alone_eq_error_iff.mp he
    exact ⟨cause, hf, hcause, fun j hj g hg => not_failsAlone_iff.mp (hearlier j hj g hg)⟩
  · rintro ⟨cause, hf, hcause, hearlier⟩
    exact ⟨hf, ⟨_, compile_alone_eq_error_iff.mpr ⟨cause, hcause, rfl⟩⟩,
      fun j hj g hg => not_failsAlone_iff.mpr (hearlier j hj g hg)⟩

/-- A list of filters fails when one of them fails alone. -/
theorem compile_fails_iff : (∃ e, compile columns fs campaign = .error e) ↔ ∃ f ∈ fs, FailsAlone columns campaign f := by
  constructor
  · rintro ⟨e, he⟩
    obtain ⟨i, f, cause, hfirst, -⟩ := compile_eq_error_iff.mp he
    exact ⟨f, List.mem_of_getElem? hfirst.1, (firstFailing_iff.mpr ⟨cause, hfirst⟩).fails⟩
  · rintro ⟨f, hf, hfails⟩
    cases hcompile : compile columns fs campaign with
    | error e => exact ⟨e, rfl⟩
    | ok compiled =>
      obtain ⟨cs, hcs, -⟩ := compile_eq_ok_iff.mp hcompile
      obtain ⟨i, hi⟩ := List.mem_iff_getElem?.mp hf
      obtain ⟨c, -, hc⟩ := hcs.exists_condition hi
      exact absurd hfails (not_failsAlone_iff.mpr ⟨c, hc⟩)

/-- Where the other filters do not fail, the condition of one is all that is missing. -/
theorem exists_conditions_of_others {i : Nat} {c : Condition} (hf : fs[i]? = some f)
    (hc : Condition.ofFilter columns campaign f = .ok c)
    (hothers : ∀ j g, j ≠ i → fs[j]? = some g → ¬FailsAlone columns campaign g) :
    ∃ cs, AreConditions columns campaign fs cs ∧ cs[i]? = some c := by
  cases hcompile : compile columns fs campaign with
  | ok compiled =>
    obtain ⟨cs, hcs, -⟩ := compile_eq_ok_iff.mp hcompile
    exact ⟨cs, hcs, hcs.getElem?_eq_some_iff.mpr ⟨f, hf, hc⟩⟩
  | error e =>
    obtain ⟨g, hg, hfails⟩ := compile_fails_iff.mp ⟨e, hcompile⟩
    obtain ⟨j, hj⟩ := List.mem_iff_getElem?.mp hg
    by_cases hji : j = i
    · subst hji
      obtain rfl := Option.some.inj (hf.symm.trans hj)
      exact absurd hfails (not_failsAlone_iff.mpr ⟨c, hc⟩)
    · exact absurd hfails (hothers j g hji hj)

/-- A filter that fails where the others do not is the one reported. -/
theorem compile_eq_error_of_others {i : Nat} {cause : ConditionError} (hf : fs[i]? = some f)
    (hcause : Condition.ofFilter columns campaign f = .error cause)
    (hothers : ∀ j g, j ≠ i → fs[j]? = some g → ¬FailsAlone columns campaign g) :
    compile columns fs campaign = .error ⟨i, f.column, cause⟩ :=
  compile_eq_error_iff.mpr ⟨i, f, cause,
    ⟨hf, hcause, fun j hj g hg => not_failsAlone_iff.mp (hothers j g (Nat.ne_of_lt hj) hg)⟩, rfl⟩

/-! ### The error -/

/-- A compilation fails when one of its filters fails alone. Its error is the one of the first such filter alone, for
which it stands at position zero, with the position of the filter in place of that zero. -/
theorem compile_error_is_of_first (columns : Columns) (campaign : CampaignKind) (fs : List FilterSpec) :
    ((∃ e, compile columns fs campaign = .error e) ↔ ∃ f ∈ fs, FailsAlone columns campaign f) ∧
      ∀ e, compile columns fs campaign = .error e ↔
        ∃ i f alone, FirstFailing columns campaign fs i f ∧ compile columns [f] campaign = .error alone ∧
          alone.index = 0 ∧ e = { alone with index := i } ∧ e.index < fs.length := by
  refine ⟨compile_fails_iff, fun e => ?_⟩
  rw [compile_eq_error_iff]
  constructor
  · rintro ⟨i, f, cause, hfirst, rfl⟩
    have halone : compile columns [f] campaign = .error ⟨0, f.column, cause⟩ :=
      compile_alone_eq_error_iff.mpr ⟨cause, hfirst.2.1, rfl⟩
    exact ⟨i, f, _, firstFailing_iff.mpr ⟨cause, hfirst⟩, halone, rfl, rfl,
      (List.getElem?_eq_some_iff.mp hfirst.1).1⟩
  · rintro ⟨i, f, alone, hfirst, halone, -, rfl, -⟩
    obtain ⟨cause, hfirst⟩ := firstFailing_iff.mp hfirst
    obtain ⟨cause', hcause', rfl⟩ := compile_alone_eq_error_iff.mp halone
    obtain rfl := Except.error.inj (hcause'.symm.trans hfirst.2.1)
    exact ⟨i, f, cause', hfirst, rfl⟩

/-- The second of three filters is on an unknown column and the third has no number: the second is reported. -/
example : compile (.ofList [("edad", .int64)]) [⟨"edad", "", .str "30"⟩, ⟨"saldo", "", .bool true⟩,
    ⟨"edad", "", .str "treinta"⟩] .unspecified = .error ⟨1, "saldo", .unknownColumn⟩ := by decide +kernel

end Audience
