import Audience.Proofs.Json.Writing
import Audience.Results.Key

/-!
The text that a key is a digest of tells requests apart: from one text come one table, one campaign, one mode and the
same filters in some order (`CacheKey.request_of_material_eq`). Texts that callers choose stand in it as JSON strings,
so none of them can pass for the end of its field.
-/

namespace Audience

namespace FilterSpec

/-- The filter with its value in normal form. -/
def normal (f : FilterSpec) : FilterSpec := { f with value := f.value.normal }

theorem normal_toJson (f : FilterSpec) : f.toJson.normal = f.normal.toJson := by
  have htype : ¬"type" = "column" ∧ ¬"type" < "column" := by decide
  have hvalue : ¬"value" = "column" ∧ ¬"value" < "column" ∧ ¬"value" = "type" ∧ ¬"value" < "type" := by decide
  have hnames : Json.sortMembers [("column", .str f.column), ("type", .str f.group), ("value", f.value.normal)] =
      [("column", .str f.column), ("type", .str f.group), ("value", f.value.normal)] := by
    simp only [Json.sortMembers, List.foldl, NameMap.insertEntry, htype, hvalue, if_false]
  exact congrArg Json.obj hnames

theorem toJson_injective : Function.Injective toJson := by
  intro f g h
  obtain ⟨column, group, value⟩ := f
  obtain ⟨column', group', value'⟩ := g
  cases h
  rfl

theorem sorted_perm (filters : List FilterSpec) : (sorted filters).Perm filters :=
  List.mergeSort_perm _ _

theorem sorted_pair (f g : FilterSpec) : sorted [f, g] = if keyLE f.sortKey g.sortKey then [f, g] else [g, f] := by
  simp [sorted, List.mergeSort, List.MergeSort.Internal.splitInTwo, List.merge]

theorem perm_of_sorted {filters others : List FilterSpec}
    (h : ((sorted filters).map toJson).map Json.normal = ((sorted others).map toJson).map Json.normal) :
    (filters.map normal).Perm (others.map normal) := by
  have hnormal : ∀ fs : List FilterSpec, (fs.map toJson).map Json.normal = (fs.map normal).map toJson := by
    intro fs
    rw [List.map_map, List.map_map]
    exact List.map_congr_left fun f _ => f.normal_toJson
  rw [hnormal, hnormal] at h
  have hsorted : (sorted filters).map normal = (sorted others).map normal := List.map_injective_iff.mpr toJson_injective h
  have hfilters := (sorted_perm filters).map normal
  rw [hsorted] at hfilters
  exact hfilters.symm.trans ((sorted_perm others).map normal)

end FilterSpec

/-- A kind that comes from a name can be found from its own name. -/
theorem CampaignKind.ofName_name_ofName? (name : Option String) : ofName (ofName? name).name = ofName? name := by
  cases name with
  | none => rfl
  | some name => rw [ofName?, name_ofName]

theorem SendMode.name_injective : Function.Injective name := by
  intro m n h
  cases m <;> cases n
  · rfl
  · exact absurd h (by decide)
  · exact absurd h (by decide)
  · rfl

namespace CacheKey

variable {table table' : String} {filters filters' : List FilterSpec} {campaign campaign' : CampaignKind}
  {mode mode' : SendMode}

/-- The text holds each part of the request in a field of its own. -/
theorem fields_of_material_eq (h : material table filters campaign mode = material table' filters' campaign' mode') :
    table = table' ∧ (filters.map FilterSpec.normal).Perm (filters'.map FilterSpec.normal) ∧
      campaign.name = campaign'.name ∧ mode = mode' := by
  have hmembers := Json.orderedText_injective h
  simp only [Json.normalMembers, Json.normal, Json.normalItems_eq_map, List.cons.injEq, Prod.mk.injEq, Json.str.injEq,
    Json.arr.injEq, true_and, and_true] at hmembers
  obtain ⟨htable, hfilters, hcampaign, hmode⟩ := hmembers
  exact ⟨htable, FilterSpec.perm_of_sorted hfilters, hcampaign, SendMode.name_injective hmode⟩

/-- Requests with one key text ask for the same: the table, the campaign, the mode, and the filters in some order, each
as often, with values that denote the same. -/
theorem request_of_material_eq {name name' : Option String}
    (h : material table filters (.ofName? name) mode = material table' filters' (.ofName? name') mode') :
    table = table' ∧ CampaignKind.ofName? name = CampaignKind.ofName? name' ∧ mode = mode' ∧
      (filters.map FilterSpec.normal).Perm (filters'.map FilterSpec.normal) := by
  obtain ⟨htable, hfilters, hcampaign, hmode⟩ := fields_of_material_eq h
  refine ⟨htable, ?_, hmode, hfilters⟩
  rw [← CampaignKind.ofName_name_ofName? name, hcampaign, CampaignKind.ofName_name_ofName?]

/-- Two filters in either order, the members of a value in either order, and no campaign in either way. -/
theorem request_of_material_eq_of_other_order :
    material "clientes" [⟨"region", "cluster", .str "\"Norte\""⟩, ⟨"edad", "", .obj [("min", .null), ("max", .bool true)]⟩]
        (.ofName? none) .m1 =
      material "clientes" [⟨"edad", "", .obj [("max", .bool true), ("min", .null)]⟩, ⟨"region", "cluster", .str "\"Norte\""⟩]
        (.ofName? (some "")) .m1 ∧
    "clientes" = "clientes" ∧ CampaignKind.ofName? none = .ofName? (some "") ∧ SendMode.m1 = .m1 ∧
    ([⟨"region", "cluster", .str "\"Norte\""⟩, ⟨"edad", "", .obj [("min", .null), ("max", .bool true)]⟩].map
        FilterSpec.normal).Perm
      ([⟨"edad", "", .obj [("max", .bool true), ("min", .null)]⟩, ⟨"region", "cluster", .str "\"Norte\""⟩].map
        FilterSpec.normal) := by
  have h : material "clientes"
        [⟨"region", "cluster", .str "\"Norte\""⟩, ⟨"edad", "", .obj [("min", .null), ("max", .bool true)]⟩]
        (.ofName? none) .m1 =
      material "clientes"
        [⟨"edad", "", .obj [("max", .bool true), ("min", .null)]⟩, ⟨"region", "cluster", .str "\"Norte\""⟩]
        (.ofName? (some "")) .m1 := by
    simp only [material, FilterSpec.sorted_pair]
    decide +kernel
  exact ⟨h, request_of_material_eq h⟩

end CacheKey

end Audience
