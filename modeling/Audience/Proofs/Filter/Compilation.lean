import Audience.Proofs.Filter.ParamNames
import Audience.Proofs.Outcome

/-!
What a compilation is made of. It succeeds when every filter has a condition. Its text is then the join of the
blocks of predicates of the conditions, and it binds under a position and an ending what the condition there
binds under that ending, and nothing else.
-/

namespace Audience

/-- The conditions of the filters, one each. -/
def AreConditions (columns : Columns) (campaign : CampaignKind) (fs : List FilterSpec) (cs : List Condition) : Prop :=
  List.Forall₂ (fun f c => Condition.ofFilter columns campaign f = .ok c) fs cs

variable {columns : Columns} {campaign : CampaignKind} {fs : List FilterSpec}

/-! ### The condition of a filter -/

namespace Condition

/-- The condition of a filter by the rule that it comes from. -/
inductive Arises (columns : Columns) (campaign : CampaignKind) (f : FilterSpec) : Condition → Prop
  | anything (wildcard : f.isWildcard = true) : Arises columns campaign f .anything
  | onDayMonth {type : ColumnType} {day : DayMonth} (chosen : f.isWildcard = false)
      (known : columns.get? f.column = some type) (due : comparesDayMonth campaign f.column = true)
      (read : DayMonth.read (dayMonthText f.value) = .ok day) : Arises columns campaign f (.onDayMonth f.column day)
  | onDate {type : ColumnType} {date : String} (chosen : f.isWildcard = false)
      (known : columns.get? f.column = some type) (notDue : comparesDayMonth campaign f.column = false)
      (dated : comparesDate type f.column = true) (read : dateOf f.value = .ok date) :
      Arises columns campaign f (.onDate f.column date)
  | equals {type : ColumnType} {v : Value} (chosen : f.isWildcard = false)
      (known : columns.get? f.column = some type) (notDue : comparesDayMonth campaign f.column = false)
      (notDated : comparesDate type f.column = false) (read : comparand type f.value = .ok v) :
      Arises columns campaign f (.equals f.column v)

theorem ofFilter_eq_ok_iff {f : FilterSpec} {c : Condition} :
    ofFilter columns campaign f = .ok c ↔ Arises columns campaign f c := by
  constructor
  · intro h
    unfold ofFilter at h
    split at h
    · next wildcard =>
      obtain rfl := Except.ok.inj h
      exact .anything wildcard
    · next chosen =>
      rw [Bool.not_eq_true] at chosen
      split at h
      · cases h
      · next type known =>
        split at h
        · next due =>
          split at h
          · next day read =>
            obtain rfl := Except.ok.inj h
            exact .onDayMonth chosen known due read
          · cases h
        · next notDue =>
          rw [Bool.not_eq_true] at notDue
          split at h
          · next dated =>
            obtain ⟨date, read, rfl⟩ := map_eq_ok_iff.mp h
            exact .onDate chosen known notDue dated read
          · next notDated =>
            rw [Bool.not_eq_true] at notDated
            obtain ⟨v, read, rfl⟩ := map_eq_ok_iff.mp h
            exact .equals chosen known notDue notDated read
  · intro h
    cases h with
    | anything wildcard => simp [ofFilter, wildcard]
    | onDayMonth chosen known due read => simp [ofFilter, chosen, known, due, read]
    | onDate chosen known notDue dated read => simp [ofFilter, chosen, known, notDue, dated, read, Except.map]
    | equals chosen known notDue notDated read => simp [ofFilter, chosen, known, notDue, notDated, read, Except.map]

end Condition

/-! ### The conditions of a list of filters -/

theorem conditionsFrom_eq_ok_iff {position : Nat} {cs : List Condition} :
    conditionsFrom columns campaign position fs = .ok cs ↔ AreConditions columns campaign fs cs := by
  unfold AreConditions
  induction fs generalizing position cs with
  | nil => simp [conditionsFrom, eq_comm]
  | cons f rest ih =>
    rw [List.forall₂_cons_left_iff, conditionsFrom]
    cases hf : Condition.ofFilter columns campaign f with
    | error cause => simp
    | ok c =>
      rw [map_eq_ok_iff]
      constructor
      · rintro ⟨rest', hrest, rfl⟩
        exact ⟨c, rest', rfl, ih.mp hrest, rfl⟩
      · rintro ⟨d, rest', hd, hrest, rfl⟩
        obtain rfl := Except.ok.inj hd
        exact ⟨rest', ih.mpr hrest, rfl⟩

/-- The condition at a position is that of the filter there. -/
theorem AreConditions.getElem?_eq_some_iff {cs : List Condition} (h : AreConditions columns campaign fs cs) {i : Nat}
    {c : Condition} : cs[i]? = some c ↔ ∃ f, fs[i]? = some f ∧ Condition.ofFilter columns campaign f = .ok c := by
  unfold AreConditions at h
  induction h generalizing i with
  | nil => simp
  | cons hf _ ih =>
    cases i with
    | zero => simp [hf]
    | succ i => simp [ih]

/-- A filter has a condition at its position. -/
theorem AreConditions.exists_condition {cs : List Condition} (h : AreConditions columns campaign fs cs) {i : Nat}
    {f : FilterSpec} (hf : fs[i]? = some f) : ∃ c, cs[i]? = some c ∧ Condition.ofFilter columns campaign f = .ok c := by
  have hlt : i < cs.length := h.length_eq ▸ (List.getElem?_eq_some_iff.mp hf).1
  obtain ⟨g, hg, hc⟩ := h.getElem?_eq_some_iff.mp (List.getElem?_eq_getElem hlt)
  obtain rfl := Option.some.inj (hf.symm.trans hg)
  exact ⟨_, List.getElem?_eq_getElem hlt, hc⟩

/-- Another filter with the condition of a position may stand there. -/
theorem AreConditions.set {cs : List Condition} (h : AreConditions columns campaign fs cs) {i : Nat} {g : FilterSpec}
    {c : Condition} (hi : cs[i]? = some c) (hg : Condition.ofFilter columns campaign g = .ok c) :
    AreConditions columns campaign (fs.set i g) cs := by
  unfold AreConditions at h ⊢
  induction h generalizing i with
  | nil => cases hi
  | cons hf hrest ih =>
    cases i with
    | zero =>
      obtain rfl := Option.some.inj hi
      exact .cons hg hrest
    | succ i => exact .cons hf (ih hi)

/-- A compilation is made of the conditions of the filters. -/
theorem compile_eq_ok_iff {compiled : CompiledFilters} :
    compile columns fs campaign = .ok compiled ↔
      ∃ cs, AreConditions columns campaign fs cs ∧ compiled = .ofConditions cs := by
  simp only [compile, map_eq_ok_iff, conditionsFrom_eq_ok_iff]

namespace CompiledFilters

open Condition

variable {cs : List Condition} {name ending : String} {v : Value} {i position : Nat}

/-! ### The text -/

/-- The text of blocks of predicates: their join, or what is always true when there are none. -/
def textOf (blocks : List (List String)) : String :=
  if blocks = [] then alwaysTrue else " AND ".intercalate blocks.flatten

theorem predicatesFrom_eq_flatten (position : Nat) (cs : List Condition) :
    predicatesFrom position cs = (cs.mapIdx fun i c => c.predicates (position + i)).flatten := by
  induction cs generalizing position with
  | nil => rfl
  | cons c rest ih => simp [predicatesFrom, ih, Nat.add_assoc, Nat.add_comm 1]

theorem predicates_ne_nil (position : Nat) (c : Condition) : c.predicates position ≠ [] := by
  cases c <;> simp [predicates]

theorem whereText_ofConditions (cs : List Condition) :
    (ofConditions cs).whereText = textOf (cs.mapIdx fun i c => c.predicates i) := by
  have hflatten := predicatesFrom_eq_flatten 0 cs
  simp only [Nat.zero_add] at hflatten
  simp only [ofConditions, hflatten]
  cases cs with
  | nil => rfl
  | cons c rest =>
    have hblocks : ((c :: rest).mapIdx fun i c => c.predicates i) ≠ [] := by simp
    have hjoined : ∀ {ps : List String}, ps ≠ [] → joined ps = " AND ".intercalate ps := by
      intro ps hps
      cases ps with
      | nil => exact absurd rfl hps
      | cons => rfl
    rw [textOf, if_neg hblocks, hjoined]
    simp [predicates_ne_nil]

/-! ### The parameters -/

theorem mem_paramsFrom_iff {x : String × Value} :
    x ∈ paramsFrom position cs ↔ ∃ i, ∃ c : Condition, cs[i]? = some c ∧ x ∈ c.params (position + i) := by
  induction cs generalizing position with
  | nil => simp [paramsFrom]
  | cons c rest ih =>
    rw [paramsFrom, List.mem_append, ih]
    constructor
    · rintro (hx | ⟨i, d, hd, hx⟩)
      · exact ⟨0, c, rfl, hx⟩
      · exact ⟨i + 1, d, hd, by rwa [Nat.add_assoc, Nat.add_comm 1] at hx⟩
    · rintro ⟨i, d, hd, hx⟩
      cases i with
      | zero =>
        obtain rfl := Option.some.inj hd
        exact .inl hx
      | succ i => exact .inr ⟨i, d, hd, by rwa [Nat.add_assoc, Nat.add_comm 1]⟩

/-- No name is bound at two positions or twice at one. -/
theorem eq_of_mem_params {c d : Condition} {j : Nat} {w : Value} (hc : cs[i]? = some c) (hd : cs[j]? = some d)
    (hv : (name, v) ∈ c.params i) (hw : (name, w) ∈ d.params j) : v = w := by
  obtain ⟨ending, hending, rfl⟩ := exists_ending_of_mem_params hv
  obtain ⟨-, hv⟩ := (mem_params_iff hending).mp hv
  obtain ⟨rfl, hw'⟩ := (mem_params_iff hending).mp hw
  obtain rfl := Option.some.inj (hc.symm.trans hd)
  exact eq_of_mem_bindings hv hw'

theorem get?_params_eq_some_iff_mem :
    (ofConditions cs).params.get? name = some v ↔ ∃ i, ∃ c : Condition, cs[i]? = some c ∧ (name, v) ∈ c.params i := by
  have hmem : ∀ w, (name, w) ∈ paramsFrom 0 cs ↔ ∃ i, ∃ c : Condition, cs[i]? = some c ∧ (name, w) ∈ c.params i := by
    simp [mem_paramsFrom_iff]
  rw [← hmem v]
  refine NameMap.get?_ofList_eq_some_iff fun v w hv hw => ?_
  obtain ⟨i, c, hc, hv⟩ := (hmem v).mp hv
  obtain ⟨j, d, hd, hw⟩ := (hmem w).mp hw
  exact eq_of_mem_params hc hd hv hw

/-- A parameter that is bound has a position and an ending. -/
theorem exists_ending_of_get?_params (h : (ofConditions cs).params.get? name = some v) :
    ∃ i < cs.length, ∃ ending ∈ endings, name = paramName i ++ ending := by
  obtain ⟨i, c, hc, hmem⟩ := get?_params_eq_some_iff_mem.mp h
  obtain ⟨ending, hending, hname⟩ := exists_ending_of_mem_params hmem
  exact ⟨i, (List.getElem?_eq_some_iff.mp hc).1, ending, hending, hname⟩

/-- What is bound under a position and an ending is what the condition there binds. -/
theorem get?_params_eq_some_iff (h : ending ∈ endings) :
    (ofConditions cs).params.get? (paramName i ++ ending) = some v ↔
      ∃ c, cs[i]? = some c ∧ (ending, v) ∈ c.bindings := by
  rw [get?_params_eq_some_iff_mem]
  constructor
  · rintro ⟨j, c, hc, hmem⟩
    obtain ⟨rfl, hbound⟩ := (mem_params_iff h).mp hmem
    exact ⟨c, hc, hbound⟩
  · rintro ⟨c, hc, hmem⟩
    exact ⟨i, c, hc, (mem_params_iff h).mpr ⟨rfl, hmem⟩⟩

end CompiledFilters

end Audience
