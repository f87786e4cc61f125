import Audience.Proofs.Filter.Compilation
import Mathlib.Data.List.OfFn
import Mathlib.Logic.Equiv.Basic

/-!
Compiling filters in another order. A filter gives the same condition wherever it stands, so the block of
predicates that it adds at one position is the one that it adds at another with the parameter renamed, and the
values that it binds are the same under the new name.
-/

namespace Audience

variable {columns : Columns} {campaign : CampaignKind}

/-- The predicates that a filter adds at a position. -/
def predicatesAt (columns : Columns) (campaign : CampaignKind) (position : Nat) (f : FilterSpec) :
    Except ConditionError (List String) :=
  (Condition.ofFilter columns campaign f).map (Condition.predicates position)

/-- The predicates that a filter on a column can add, with the name of its parameter. -/
inductive BlockForm (column name : String) : List String → Prop
  | anything : BlockForm column name ["1=1"]
  | equality : BlockForm column name [column ++ " = @" ++ name]
  | date : BlockForm column name ["DATE(" ++ column ++ ") = @" ++ name]
  | dayMonth : BlockForm column name
      ["EXTRACT(MONTH FROM DATE(" ++ column ++ ")) = @" ++ name ++ "_month",
        "EXTRACT(DAY FROM DATE(" ++ column ++ ")) = @" ++ name ++ "_day"]

/-- The filters in another order: at a position stands the filter from where the permutation says. -/
def reordered (fs : List FilterSpec) (p : Equiv.Perm (Fin fs.length)) : List FilterSpec :=
  List.ofFn fun j => fs.get (p j)

/-- A condition is on the filter's own column. -/
theorem blockForm_of_ofFilter {f : FilterSpec} {c : Condition} (h : Condition.ofFilter columns campaign f = .ok c)
    (position : Nat) : BlockForm f.column (Condition.paramName position) (c.predicates position) := by
  cases Condition.ofFilter_eq_ok_iff.mp h with
  | anything => exact .anything
  | onDayMonth => exact .dayMonth
  | onDate => exact .date
  | equals => exact .equality

/-! ### Filters by position -/

theorem areConditions_ofFn_iff {n : Nat} {f : Fin n → FilterSpec} {cs : List Condition} :
    AreConditions columns campaign (List.ofFn f) cs ↔
      ∃ c : Fin n → Condition, cs = List.ofFn c ∧ ∀ i, Condition.ofFilter columns campaign (f i) = .ok (c i) := by
  rw [AreConditions, List.forall₂_iff_get]
  constructor
  · rintro ⟨hlen, hget⟩
    obtain rfl : n = cs.length := by simpa using hlen
    refine ⟨cs.get, (List.ofFn_get cs).symm, fun i => ?_⟩
    simpa using hget i (by simp) i.isLt
  · rintro ⟨c, rfl, hc⟩
    exact ⟨by simp, fun i hi _ => by simpa using hc ⟨i, by simpa using hi⟩⟩

theorem compile_ofFn_eq_ok_iff {n : Nat} {f : Fin n → FilterSpec} {compiled : CompiledFilters} :
    compile columns (List.ofFn f) campaign = .ok compiled ↔
      ∃ c : Fin n → Condition, (∀ i, Condition.ofFilter columns campaign (f i) = .ok (c i)) ∧
        compiled = .ofConditions (List.ofFn c) := by
  rw [compile_eq_ok_iff]
  constructor
  · rintro ⟨cs, hcs, rfl⟩
    obtain ⟨c, rfl, hc⟩ := areConditions_ofFn_iff.mp hcs
    exact ⟨c, hc, rfl⟩
  · rintro ⟨c, hc, rfl⟩
    exact ⟨List.ofFn c, areConditions_ofFn_iff.mpr ⟨c, rfl, hc⟩, rfl⟩

namespace CompiledFilters

open Condition

variable {n : Nat} (c : Fin n → Condition)

theorem whereText_ofFn :
    (ofConditions (List.ofFn c)).whereText = textOf (List.ofFn fun i => (c i).predicates i) := by
  rw [whereText_ofConditions]
  congr 1
  apply List.ext_getElem <;> simp

theorem get?_params_ofFn_eq_some_iff {ending : String} {v : Value} (h : ending ∈ endings) (i : Fin n) :
    (ofConditions (List.ofFn c)).params.get? (paramName i ++ ending) = some v ↔ (ending, v) ∈ (c i).bindings := by
  rw [get?_params_eq_some_iff h]
  simp

theorem exists_ending_of_mem_names {name : String} (h : name ∈ (ofConditions (List.ofFn c)).params.names) :
    ∃ i : Fin n, ∃ ending ∈ endings, name = paramName i ++ ending := by
  obtain ⟨v, hv⟩ := Option.isSome_iff_exists.mp (NameMap.mem_names_iff.mp h)
  obtain ⟨i, hi, hending⟩ := exists_ending_of_get?_params hv
  exact ⟨⟨i, by simpa using hi⟩, hending⟩

end CompiledFilters

/-! ### The other order -/

open Condition CompiledFilters

/-- What two compilations of the same filters in two orders have in common. The blocks of predicates are those of
the filters, position by position. -/
structure Reordering (columns : Columns) (campaign : CampaignKind) (fs : List FilterSpec)
    (p : Equiv.Perm (Fin fs.length)) (first second : CompiledFilters)
    (blocks moved : Fin fs.length → List String) : Prop where
  block : ∀ i : Fin fs.length, predicatesAt columns campaign i (fs.get i) = .ok (blocks i)
  movedBlock : ∀ j : Fin fs.length, predicatesAt columns campaign j (fs.get (p j)) = .ok (moved j)
  form : ∀ i, BlockForm (fs.get i).column (paramName i) (blocks i)
  /-- A block is the one of the filter's old position with its parameter renamed. -/
  renamed : ∀ j, moved j = (blocks (p j)).map (renameParam (paramName (p j)) (paramName j))
  text : first.whereText = textOf (List.ofFn blocks)
  movedText : second.whereText = textOf (List.ofFn moved)
  /-- The values are the same under the new names. -/
  params : ∀ j : Fin fs.length, ∀ ending ∈ endings,
    second.params.get? (paramName j ++ ending) = first.params.get? (paramName (p j) ++ ending)
  named : ∀ name ∈ first.params.names, ∃ i : Fin fs.length, ∃ ending ∈ endings, name = paramName i ++ ending
  movedNamed : ∀ name ∈ second.params.names, ∃ j : Fin fs.length, ∃ ending ∈ endings, name = paramName j ++ ending

theorem reordering_of_conditions {fs : List FilterSpec} (p : Equiv.Perm (Fin fs.length)) {c : Fin fs.length → Condition}
    (hc : ∀ i, Condition.ofFilter columns campaign (fs.get i) = .ok (c i)) :
    Reordering columns campaign fs p (.ofConditions (List.ofFn c)) (.ofConditions (List.ofFn fun j => c (p j)))
      (fun i => (c i).predicates i) (fun j => (c (p j)).predicates j) where
  block := fun i => by rw [predicatesAt, hc]; rfl
  movedBlock := fun j => by rw [predicatesAt, hc]; rfl
  form := fun i => blockForm_of_ofFilter (hc i) i
  renamed := fun j => predicates_eq_map_renameParam (p j) j (c (p j))
  text := whereText_ofFn c
  movedText := whereText_ofFn fun j => c (p j)
  params := fun j ending hending => by
    ext v
    rw [get?_params_ofFn_eq_some_iff (fun j => c (p j)) hending, get?_params_ofFn_eq_some_iff c hending]
  named := fun _ => exists_ending_of_mem_names c
  movedNamed := fun _ => exists_ending_of_mem_names fun j => c (p j)

/-- Filters compile in one order when they compile in another, to the same blocks and values but for the names of
the parameters. -/
theorem compile_reordered (columns : Columns) (campaign : CampaignKind) (fs : List FilterSpec)
    (p : Equiv.Perm (Fin fs.length)) :
    ((∃ second, compile columns (reordered fs p) campaign = .ok second) ↔
        ∃ first, compile columns fs campaign = .ok first) ∧
      ∀ first second, compile columns fs campaign = .ok first →
        compile columns (reordered fs p) campaign = .ok second →
        ∃ blocks moved, Reordering columns campaign fs p first second blocks moved := by
  have hfirst : ∀ first, compile columns fs campaign = .ok first ↔
      ∃ c : Fin fs.length → Condition, (∀ i, Condition.ofFilter columns campaign (fs.get i) = .ok (c i)) ∧
        first = .ofConditions (List.ofFn c) := by
    intro first
    rw [← compile_ofFn_eq_ok_iff, List.ofFn_get]
  refine ⟨⟨?_, ?_⟩, ?_⟩
  · rintro ⟨second, hsecond⟩
    obtain ⟨d, hd, -⟩ := compile_ofFn_eq_ok_iff.mp hsecond
    refine ⟨_, (hfirst _).mpr ⟨fun i => d (p.symm i), fun i => ?_, rfl⟩⟩
    simpa using hd (p.symm i)
  · rintro ⟨first, h⟩
    obtain ⟨c, hc, -⟩ := (hfirst first).mp h
    exact ⟨_, compile_ofFn_eq_ok_iff.mpr ⟨fun j => c (p j), fun j => hc (p j), rfl⟩⟩
  · intro first second h hsecond
    obtain ⟨c, hc, rfl⟩ := (hfirst first).mp h
    obtain ⟨d, hd, rfl⟩ := compile_ofFn_eq_ok_iff.mp hsecond
    obtain rfl : d = fun j => c (p j) := funext fun j => Except.ok.inj ((hd j).symm.trans (hc (p j)))
    exact ⟨_, _, reordering_of_conditions p hc⟩

/-- A filter on a column and one that every row passes change places: the parameter `val0` becomes `val1`. -/
theorem compile_reordered_of_swap :
    ∃ first second blocks moved,
      compile (NameMap.ofList [("ciudad", .string)])
          [⟨"ciudad", "", .str "Lima"⟩, ⟨"edad", "", .str "Todos"⟩] .unspecified = .ok first ∧
        first.whereText = "ciudad = @val0 AND 1=1" ∧
        Reordering (NameMap.ofList [("ciudad", .string)]) .unspecified
          [⟨"ciudad", "", .str "Lima"⟩, ⟨"edad", "", .str "Todos"⟩] (Equiv.swap (0 : Fin 2) 1) first second blocks moved := by
  obtain ⟨hsucceeds, hsame⟩ := compile_reordered (NameMap.ofList [("ciudad", .string)]) .unspecified
    [⟨"ciudad", "", .str "Lima"⟩, ⟨"edad", "", .str "Todos"⟩] (Equiv.swap (0 : Fin 2) 1)
  obtain ⟨second, hsecond⟩ := hsucceeds.mpr ⟨_, rfl⟩
  obtain ⟨blocks, moved, hreordering⟩ := hsame _ second rfl hsecond
  exact ⟨_, second, blocks, moved, rfl, by decide +kernel, hreordering⟩

/-- The text is not the join of the blocks for every list of filters: without filters it is `1=1`. -/
theorem whereText_without_filters :
    ¬∀ (columns : Columns) (campaign : CampaignKind) (fs : List FilterSpec) (compiled : CompiledFilters)
      (blocks : Fin fs.length → List String), compile columns fs campaign = .ok compiled →
      (∀ i : Fin fs.length, predicatesAt columns campaign i (fs.get i) = .ok (blocks i)) →
      compiled.whereText = " AND ".intercalate (List.ofFn blocks).flatten := by
  intro h
  have hnil := h ∅ .unspecified [] _ (fun i => i.elim0) rfl fun i => i.elim0
  exact absurd hnil (by decide)

end Audience
