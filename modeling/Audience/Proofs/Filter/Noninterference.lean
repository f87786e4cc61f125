import Audience.Filter.Template
import Audience.Proofs.Filter.Compilation

/-!
Values do not reach the text of a statement. Which rule a filter falls under is settled by its column, the column's
type and the campaign, and its predicates name the column and the parameter only. So two lists of filters that
differ in their values have the same text and the same names of parameters.
-/

namespace Audience

/-- Both filters let every row pass, or both are on the same column. Their values and groups may differ. -/
structure SameColumn (f g : FilterSpec) : Prop where
  wildcard : f.isWildcard = g.isWildcard
  column : f.isWildcard = false → f.column = g.column

/-- Conditions that differ in what they compare with. -/
inductive Condition.SameForm : Condition → Condition → Prop
  | anything : SameForm .anything .anything
  | equals (column : String) (v w : Value) : SameForm (.equals column v) (.equals column w)
  | onDate (column date date' : String) : SameForm (.onDate column date) (.onDate column date')
  | onDayMonth (column : String) (day day' : DayMonth) : SameForm (.onDayMonth column day) (.onDayMonth column day')

variable {columns : Columns} {campaign : CampaignKind} {f g : FilterSpec} {fs gs : List FilterSpec}
  {c d : Condition} {cs ds : List Condition}

namespace Condition

/-- The rule for a filter does not look at its value. -/
theorem Arises.sameForm (hf : Arises columns campaign f c) (hg : Arises columns campaign g d) (h : SameColumn f g) :
    SameForm c d := by
  obtain ⟨hwildcard, hcolumn⟩ := h
  cases hf with
  | anything wildcard =>
    rw [hwildcard] at wildcard
    cases hg with
    | anything => exact .anything
    | onDayMonth chosen | onDate chosen | equals chosen => exact absurd (wildcard.symm.trans chosen) (by decide)
  | onDayMonth chosen known due =>
    have hcolumn := hcolumn chosen
    rw [hwildcard] at chosen
    rw [hcolumn] at due ⊢
    cases hg with
    | anything wildcard => exact absurd (wildcard.symm.trans chosen) (by decide)
    | onDayMonth => exact .onDayMonth _ _ _
    | onDate _ _ notDue | equals _ _ notDue => exact absurd (due.symm.trans notDue) (by decide)
  | onDate chosen known notDue dated =>
    have hcolumn := hcolumn chosen
    rw [hwildcard] at chosen
    rw [hcolumn] at known notDue dated ⊢
    cases hg with
    | anything wildcard => exact absurd (wildcard.symm.trans chosen) (by decide)
    | onDayMonth _ _ due => exact absurd (due.symm.trans notDue) (by decide)
    | onDate => exact .onDate _ _ _
    | equals _ known' _ notDated =>
      obtain rfl := Option.some.inj (known.symm.trans known')
      exact absurd (dated.symm.trans notDated) (by decide)
  | equals chosen known notDue notDated =>
    have hcolumn := hcolumn chosen
    rw [hwildcard] at chosen
    rw [hcolumn] at known notDue notDated ⊢
    cases hg with
    | anything wildcard => exact absurd (wildcard.symm.trans chosen) (by decide)
    | onDayMonth _ _ due => exact absurd (due.symm.trans notDue) (by decide)
    | onDate _ known' _ dated =>
      obtain rfl := Option.some.inj (known.symm.trans known')
      exact absurd (dated.symm.trans notDated) (by decide)
    | equals => exact .equals _ _ _

namespace SameForm

theorem predicates (h : SameForm c d) (position : Nat) : c.predicates position = d.predicates position := by
  cases h <;> rfl

theorem paramNames (h : SameForm c d) (position : Nat) :
    (c.params position).map (·.1) = (d.params position).map (·.1) := by
  cases h <;> rfl

end SameForm

end Condition

theorem sameForms_of_sameColumns (h : List.Forall₂ SameColumn fs gs) (hf : AreConditions columns campaign fs cs)
    (hg : AreConditions columns campaign gs ds) : List.Forall₂ Condition.SameForm cs ds := by
  unfold AreConditions at hf hg
  induction h generalizing cs ds with
  | nil =>
    cases hf
    cases hg
    exact .nil
  | cons hsame _ ih =>
    obtain ⟨c, cs, hc, hcs, rfl⟩ := List.forall₂_cons_left_iff.mp hf
    obtain ⟨d, ds, hd, hds, rfl⟩ := List.forall₂_cons_left_iff.mp hg
    have hform := (Condition.ofFilter_eq_ok_iff.mp hc).sameForm (Condition.ofFilter_eq_ok_iff.mp hd) hsame
    exact .cons hform (ih hcs hds)

namespace CompiledFilters

theorem predicatesFrom_congr (h : List.Forall₂ Condition.SameForm cs ds) (position : Nat) :
    predicatesFrom position cs = predicatesFrom position ds := by
  induction h generalizing position with
  | nil => rfl
  | cons hform _ ih => rw [predicatesFrom, predicatesFrom, hform.predicates, ih]

theorem paramNamesFrom_congr (h : List.Forall₂ Condition.SameForm cs ds) (position : Nat) :
    (paramsFrom position cs).map (·.1) = (paramsFrom position ds).map (·.1) := by
  induction h generalizing position with
  | nil => rfl
  | cons hform _ ih => rw [paramsFrom, paramsFrom, List.map_append, List.map_append, hform.paramNames, ih]

end CompiledFilters

/-- Filters with other values compile to the same text, make the same statement and bind the same names: whatever
the values are, they are only bound. -/
theorem statement_ignores_values (columns : Columns) (campaign : CampaignKind) (templates : QueryTemplates)
    (table : TableRef) (mode : SendMode) {first second : CompiledFilters} (h : List.Forall₂ SameColumn fs gs)
    (hf : compile columns fs campaign = .ok first) (hg : compile columns gs campaign = .ok second) :
    first.whereText = second.whereText ∧
      (templates.statement table first campaign mode).sql = (templates.statement table second campaign mode).sql ∧
      (templates.statement table first campaign mode).params.names =
        (templates.statement table second campaign mode).params.names := by
  obtain ⟨cs, hcs, rfl⟩ := compile_eq_ok_iff.mp hf
  obtain ⟨ds, hds, rfl⟩ := compile_eq_ok_iff.mp hg
  have hforms := sameForms_of_sameColumns h hcs hds
  have htext : (CompiledFilters.ofConditions cs).whereText = (CompiledFilters.ofConditions ds).whereText :=
    congrArg CompiledFilters.joined (CompiledFilters.predicatesFrom_congr hforms 0)
  have hnames := NameMap.names_ofList_congr (CompiledFilters.paramNamesFrom_congr hforms 0)
  refine ⟨htext, ?_, hnames⟩
  simp only [QueryTemplates.statement, htext]

/-- A value that looks like SQL changes nothing in the text, nor does the column of a filter for all rows. -/
theorem statement_ignores_values_that_look_like_sql :
    ∃ first second,
      compile (NameMap.ofList [("ciudad", .string), ("alta", .date)])
          [⟨"ciudad", "", .str "Lima"⟩, ⟨"alta", "", .str "2024-05-01"⟩, ⟨"edad", "", .null⟩] .fidelity = .ok first ∧
        compile (NameMap.ofList [("ciudad", .string), ("alta", .date)])
          [⟨"ciudad", "", .str "' OR 1=1 --"⟩, ⟨"alta", "x", .str "2023-1-9T10:00"⟩, ⟨"'", "", .str "Todos"⟩]
          .fidelity = .ok second ∧
        first ≠ second ∧ first.whereText = second.whereText := by
  have hsame : List.Forall₂ SameColumn
      [⟨"ciudad", "", .str "Lima"⟩, ⟨"alta", "", .str "2024-05-01"⟩, ⟨"edad", "", .null⟩]
      [⟨"ciudad", "", .str "' OR 1=1 --"⟩, ⟨"alta", "x", .str "2023-1-9T10:00"⟩, ⟨"'", "", .str "Todos"⟩] :=
    .cons ⟨rfl, fun _ => rfl⟩ (.cons ⟨rfl, fun _ => rfl⟩ (.cons ⟨rfl, fun h => by cases h⟩ .nil))
  have hf : compile (NameMap.ofList [("ciudad", .string), ("alta", .date)])
      [⟨"ciudad", "", .str "Lima"⟩, ⟨"alta", "", .str "2024-05-01"⟩, ⟨"edad", "", .null⟩] .fidelity = .ok _ := rfl
  have hg : compile (NameMap.ofList [("ciudad", .string), ("alta", .date)])
      [⟨"ciudad", "", .str "' OR 1=1 --"⟩, ⟨"alta", "x", .str "2023-1-9T10:00"⟩, ⟨"'", "", .str "Todos"⟩]
      .fidelity = .ok _ := rfl
  obtain ⟨htext, -, -⟩ := statement_ignores_values _ _ {} ⟨"p", "d", "t"⟩ .m1 hsame hf hg
  exact ⟨_, _, hf, hg, by decide +kernel, htext⟩

end Audience
