import Audience.Proofs.Json.Rearranging
import Audience.Proofs.Results.KeyMaterial
import Audience.Service.Request
import Mathlib.Data.List.Forall2

/-!
The text of a key does not depend on the order of the filters. Sorting puts the sort keys of the filters into their one
order (`FilterSpec.sortKeys_sorted_congr`), and what is written of a filter depends on its sort key alone, so filters
that sorting cannot tell apart are written alike. Nor does it depend on the order of the members of an object in a
filter's value (`cacheKey_rearranged`).
-/

namespace Audience

namespace Json

theorem writtenItems_eq_flatMap (items : List Json) :
    writtenItems items = (items.flatMap fun j => ',' :: written j) ++ [']'] := by
  induction items with
  | nil => rfl
  | cons j items ih => simp [writtenItems, ih]

/-- An array is written as its items are. -/
theorem written_arr_congr {items others : List Json} (h : items.map written = others.map written) :
    written (.arr items) = written (.arr others) := by
  have htail : ∀ {js ks : List Json}, js.map written = ks.map written → writtenItems js = writtenItems ks := by
    intro js ks hjs
    rw [writtenItems_eq_flatMap, writtenItems_eq_flatMap, List.flatMap_def, List.flatMap_def]
    have hcommas := congrArg (List.map (',' :: ·)) hjs
    rw [List.map_map, List.map_map] at hcommas
    exact congrArg (fun l : List (List Char) => l.flatten ++ [']']) hcommas
  cases items with
  | nil =>
    obtain rfl := List.map_eq_nil_iff.mp h.symm
    rfl
  | cons j items =>
    obtain ⟨k, others, rfl, hfirst, hrest⟩ := List.map_eq_cons_iff.mp h.symm
    rw [written, written, hfirst, htail hrest]

end Json

namespace FilterSpec

variable {fs gs : List FilterSpec} {a b c : String × String × String}

/-! ### The order of the sort keys -/

theorem keyLE_iff : keyLE a b = true ↔
    a.1 < b.1 ∨ a.1 = b.1 ∧ (a.2.1 < b.2.1 ∨ a.2.1 = b.2.1 ∧ a.2.2 ≤ b.2.2) := by
  unfold keyLE
  split
  · next hcolumn =>
    split
    · next hgroup => simp [hcolumn, hgroup]
    · next hgroup => simp [hcolumn, hgroup]
  · next hcolumn => simp [hcolumn]

theorem keyLE_trans (h : keyLE a b = true) (h' : keyLE b c = true) : keyLE a c = true := by
  rw [keyLE_iff] at *
  grind

theorem keyLE_total (a b : String × String × String) : (keyLE a b || keyLE b a) = true := by
  rw [Bool.or_eq_true, keyLE_iff, keyLE_iff]
  grind

theorem keyLE_antisymm (h : keyLE a b = true) (h' : keyLE b a = true) : a = b := by
  rw [keyLE_iff] at h h'
  obtain ⟨column, group, value⟩ := a
  obtain ⟨column', group', value'⟩ := b
  grind

/-- A filter is ordered by what its normal form writes. -/
theorem sortKeys_perm (h : (fs.map normal).Perm (gs.map normal)) : (fs.map sortKey).Perm (gs.map sortKey) := by
  have hkeys := h.map fun f => (f.column, f.group, String.ofList f.value.written)
  rwa [List.map_map, List.map_map] at hkeys

/-- The same sort keys have one order. -/
theorem sortKeys_sorted_congr (h : (fs.map sortKey).Perm (gs.map sortKey)) :
    (sorted fs).map sortKey = (sorted gs).map sortKey := by
  have hpairwise : ∀ l : List FilterSpec, ((sorted l).map sortKey).Pairwise fun a b => keyLE a b = true := by
    intro l
    exact List.pairwise_map.mpr (@List.pairwise_mergeSort _ (fun f g => keyLE f.sortKey g.sortKey)
      (fun _ _ _ => keyLE_trans) (fun f g => keyLE_total f.sortKey g.sortKey) l)
  have hperm : ((sorted fs).map sortKey).Perm ((sorted gs).map sortKey) :=
    ((sorted_perm fs).map sortKey).trans (h.trans ((sorted_perm gs).symm.map sortKey))
  exact List.Perm.eq_of_pairwise (fun _ _ _ _ => keyLE_antisymm) (hpairwise fs) (hpairwise gs) hperm

/-- Filters with one sort key are written alike. -/
theorem written_toJson_factors :
    Function.FactorsThrough (fun f : FilterSpec => f.toJson.normal.written) sortKey := by
  intro f g h
  obtain ⟨hcolumn, hrest⟩ := Prod.mk.inj h
  obtain ⟨hgroup, hvalue⟩ := Prod.mk.inj hrest
  have hwritten : f.value.normal.written = g.value.normal.written := String.ofList_injective hvalue
  show f.toJson.normal.written = g.toJson.normal.written
  rw [normal_toJson, normal_toJson]
  simp only [toJson, normal, Json.written, Json.writtenMembers, hcolumn, hgroup, hwritten]

theorem written_sorted_congr (h : (fs.map sortKey).Perm (gs.map sortKey)) :
    Json.written (.arr (Json.normalItems ((sorted fs).map toJson))) =
      Json.written (.arr (Json.normalItems ((sorted gs).map toJson))) := by
  -- Filters with one sort key may differ and stand in any order, so the sorted lists are compared as they are written.
  have hwritten : ∀ l : List FilterSpec, (Json.normalItems (l.map toJson)).map Json.written =
      (l.map sortKey).map (Function.extend sortKey (fun f => f.toJson.normal.written) fun _ => []) := by
    intro l
    rw [List.map_map, written_toJson_factors.extend_comp, Json.normalItems_eq_map, List.map_map, List.map_map]
    rfl
  refine Json.written_arr_congr ?_
  rw [hwritten, hwritten, sortKeys_sorted_congr h]

end FilterSpec

namespace CacheKey

/-- The text of a key depends on the name of the campaign and not on the order of the filters. -/
theorem material_congr (table : String) {fs gs : List FilterSpec}
    (hfilters : (fs.map FilterSpec.normal).Perm (gs.map FilterSpec.normal)) {campaign campaign' : CampaignKind}
    (hcampaign : campaign.name = campaign'.name) (mode : SendMode) :
    material table fs campaign mode = material table gs campaign' mode := by
  have hwritten := FilterSpec.written_sorted_congr (FilterSpec.sortKeys_perm hfilters)
  simp only [material, Json.orderedText, Json.normalMembers, Json.normal, Json.written, Json.writtenMembers, hwritten,
    hcampaign]

end CacheKey

namespace FilterRequest

/-- Requests for the same have one key, in whatever order their filters stand. -/
theorem key_congr {r other : FilterRequest} (htable : other.table = r.table)
    (hcampaign : other.campaign.name = r.campaign.name) (hmode : other.mode = r.mode)
    (hfilters : other.filters.Perm r.filters) : other.key = r.key := by
  rw [key, key, cacheKey, cacheKey, htable, hmode, CacheKey.material_congr r.table (hfilters.map _) hcampaign]

end FilterRequest

/-! ### Rearranged filters -/

/-- The second filter is the first one with the members of objects in another order. -/
structure FilterSpec.Rearranged (f g : FilterSpec) : Prop where
  column : f.column = g.column
  group : f.group = g.group
  value : f.value.Rearranged g.value

theorem FilterSpec.Rearranged.normal_eq {f g : FilterSpec} (h : f.Rearranged g) : f.normal = g.normal := by
  rw [normal, normal, h.column, h.group, h.value.normal_eq]

/-- Neither the order of the filters nor the order of the members in their values changes the key. -/
theorem cacheKey_rearranged (table : String) {filters reordered others : List FilterSpec}
    (hfilters : filters.Perm reordered) (hvalues : List.Forall₂ FilterSpec.Rearranged reordered others)
    (campaign : CampaignKind) (mode : SendMode) :
    cacheKey table filters campaign mode = cacheKey table others campaign mode := by
  have hnormal : reordered.map FilterSpec.normal = others.map FilterSpec.normal := by
    rw [← List.forall₂_eq_eq_eq, List.forall₂_map_left_iff, List.forall₂_map_right_iff]
    exact hvalues.imp fun _ _ h => h.normal_eq
  have hsame : (filters.map FilterSpec.normal).Perm (others.map FilterSpec.normal) := hnormal ▸ hfilters.map _
  rw [cacheKey, cacheKey, CacheKey.material_congr table hsame rfl mode]

/-- Three filters on one column, two of them alike, and an object in a list with its members the other way round. -/
theorem cacheKey_rearranged_of_alike :
    let south : FilterSpec := ⟨"region", "cluster", .str "Sur"⟩
    let ages : FilterSpec := ⟨"region", "", .arr [.null, .obj [("min", .null), ("max", .bool true)]]⟩
    let turned : FilterSpec := ⟨"region", "", .arr [.null, .obj [("max", .bool true), ("min", .null)]]⟩
    [south, ages, south].Perm [ages, south, south] ∧
      List.Forall₂ FilterSpec.Rearranged [ages, south, south] [turned, south, south] ∧
      cacheKey "clientes" [south, ages, south] .reminder .m0 = cacheKey "clientes" [turned, south, south] .reminder .m0 := by
  intro south ages turned
  have hfilters : [south, ages, south].Perm [ages, south, south] := .swap ages south [south]
  have hobject : (Json.obj [("min", .null), ("max", .bool true)]).Rearranged (.obj [("max", .bool true), ("min", .null)]) :=
    .of_perm (by decide) (.swap _ _ _)
  have hages : ages.Rearranged turned := ⟨rfl, rfl, .item [.null] [] hobject⟩
  have hsouth : south.Rearranged south := ⟨rfl, rfl, .refl _⟩
  have hvalues := List.Forall₂.cons hages (.cons hsouth (.cons hsouth .nil))
  exact ⟨hfilters, hvalues, cacheKey_rearranged "clientes" hfilters hvalues .reminder .m0⟩

end Audience
