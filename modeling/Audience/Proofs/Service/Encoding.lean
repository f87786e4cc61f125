import Audience.Proofs.Outcome
import Audience.Proofs.Results.KeyMaterial
import Audience.Proofs.Text.Lowering
import Audience.Service.Request

/-!
Requests written as bodies. A request can be written in many ways: its filters as objects or as lists, blanks around its
table and its send mode, the mode in any case, and members with names of their own in every object. All of them are read
as the request, and a request that was read can be written and is read from that again (`FilterRequest.reads_back`).
-/

namespace Audience

/-! ### Objects with other names besides -/

namespace Json

variable {known : List (String × Json)} {j : Json}

/-- The second object has the members of the first one, in any order, among members with other names. -/
inductive Within : Json → Json → Prop where
  | intro {known members : List (String × Json)}
      (h : (members.filter fun m => m.1 ∈ known.map Prod.fst).Perm known) : Within (.obj known) (.obj members)

theorem Within.refl (known : List (String × Json)) : Within (.obj known) (.obj known) := by
  have hall : (known.filter fun m => m.1 ∈ known.map Prod.fst) = known :=
    List.filter_eq_self.mpr fun m hm => decide_eq_true (List.mem_map_of_mem hm)
  exact .intro (.of_eq hall)

theorem Within.field?_eq (h : Within (.obj known) j) (hnames : (known.map Prod.fst).Nodup) :
    ∀ m ∈ known, j.field? m.1 = some m.2 := by
  rintro ⟨name, v⟩ hm
  obtain ⟨hperm⟩ := h
  next members =>
  -- Whatever the second object has under the name is a member of the first one.
  have hknown : ∀ w, (name, w) ∈ members → (name, w) ∈ known := by
    intro w hw
    have hname : name ∈ known.map Prod.fst := List.mem_map_of_mem (f := Prod.fst) hm
    exact hperm.mem_iff.mp (List.mem_filter.mpr ⟨hw, decide_eq_true hname⟩)
  have hunique : ∀ w w', (name, w) ∈ members → (name, w') ∈ members → w = w' := by
    intro w w' hw hw'
    exact (Prod.mk.inj (List.inj_on_of_nodup_map hnames (hknown w hw) (hknown w' hw') rfl)).2
  show members.reverse.lookup name = some v
  rw [← NameMap.get?_ofList, NameMap.get?_ofList_eq_some_iff hunique]
  exact (List.mem_filter.mp (hperm.mem_iff.mpr hm)).1

end Json

/-! ### Filters -/

namespace FilterSpec

variable {f : FilterSpec} {j : Json}

/-- A filter is written as the list of its parts or as an object that may have other names besides. -/
inductive WrittenAs (f : FilterSpec) : Json → Prop where
  | parts : f.WrittenAs (.arr [.str f.column, .str f.group, f.value])
  | object {j : Json} (h : f.toJson.Within j) : f.WrittenAs j

theorem ofJson_of_within (h : f.toJson.Within j) : ofJson j = .ok f := by
  have hfields := h.field?_eq (show ["column", "type", "value"].Nodup by decide)
  simp only [List.forall_mem_cons] at hfields
  obtain ⟨hcolumn, hgroup, hvalue, -⟩ := hfields
  obtain ⟨-⟩ := h
  simp only [ofJson, hcolumn, hgroup, hvalue]
  rfl

theorem ofJson_of_writtenAs (h : f.WrittenAs j) : ofJson j = .ok f := by
  cases h with
  | parts => rfl
  | object h => exact ofJson_of_within h

end FilterSpec

/-! ### Send modes -/

namespace SendMode

variable {mode : SendMode} {s : String}

/-- A send mode is written as its name in any case, between blanks. -/
def WrittenAs (mode : SendMode) (s : String) : Prop :=
  ∃ letters : String, Text.InAnyCase mode.name.toList letters.toList ∧ Text.Padded letters s

theorem name_letters (mode : SendMode) : ∀ c ∈ mode.name.toList, ¬c.isUpper = true ∧ Text.isBlank c = false := by
  cases mode
  · exact List.forall_mem_cons.mpr ⟨by decide, List.forall_mem_singleton.mpr (by decide)⟩
  · exact List.forall_mem_cons.mpr ⟨by decide, List.forall_mem_singleton.mpr (by decide)⟩

theorem read_of_writtenAs (h : mode.WrittenAs s) : read s = .ok mode := by
  obtain ⟨letters, hletters, hs⟩ := h
  have hname : letters.toList.map Char.toLower = mode.name.toList :=
    (Text.inAnyCase_iff fun c hc => (mode.name_letters c hc).1).mp hletters
  rw [read, hs.trimChars_eq (hletters.trimmed mode.name_letters), hname, String.ofList_toList]
  cases mode <;> rfl

theorem WrittenAs.ne_empty (h : mode.WrittenAs s) : s ≠ "" := by
  rintro rfl
  have hread := read_of_writtenAs h
  cases mode <;> exact absurd hread (by decide)

end SendMode

/-! ### Requests -/

namespace FilterRequest

variable {r : FilterRequest} {j : Json} {part : Option Json} {table : String}

/-- What a request is when it was read: its table has no outer blanks and its campaign was named. -/
structure Proper (r : FilterRequest) : Prop where
  table_ne_empty : r.table ≠ ""
  table_trimmed : Text.Trimmed r.table.toList
  campaign_named : ∃ name, r.campaign = CampaignKind.ofName? name

def body (table : String) (filters : List Json) (campaign mode : String) : Json :=
  .obj [("table", .str table), ("filters", .arr filters), ("tipoCampana", .str campaign), ("modoEnvio", .str mode)]

/-- The request as a body. -/
def toJson (r : FilterRequest) : Json := body r.table (r.filters.map FilterSpec.toJson) r.campaign.name r.mode.name

/-- The bodies that a request is written as. -/
inductive WrittenAs (r : FilterRequest) : Json → Prop where
  | intro {table mode : String} {filters : List Json} {j : Json} (htable : Text.Padded r.table table)
      (hfilters : List.Forall₂ FilterSpec.WrittenAs r.filters filters) (hmode : r.mode.WrittenAs mode)
      (h : (body table filters r.campaign.name mode).Within j) : r.WrittenAs j

theorem writtenAs_toJson (r : FilterRequest) : r.WrittenAs r.toJson := by
  have hfilters : List.Forall₂ FilterSpec.WrittenAs r.filters (r.filters.map FilterSpec.toJson) := by
    rw [List.forall₂_map_right_iff, List.forall₂_same]
    exact fun f _ => .object (.refl _)
  exact .intro (.refl _) hfilters ⟨r.mode.name, .refl _, .refl _⟩ (.refl _)

/-- Each part is read from its own field. -/
theorem ofJson_eq_ok_iff : ofJson j = .ok r ↔
    tableOf (j.field? "table") = .ok r.table ∧ filtersOf (j.field? "filters") = .ok r.filters ∧
      campaignOf (j.field? "tipoCampana") = .ok r.campaign ∧ modeOf (j.field? "modoEnvio") = .ok r.mode := by
  simp only [ofJson, bind_eq_ok_iff]
  constructor
  · rintro ⟨table, htable, filters, hfilters, campaign, hcampaign, mode, hmode, hr⟩
    obtain rfl := Except.ok.inj hr
    exact ⟨htable, hfilters, hcampaign, hmode⟩
  · rintro ⟨htable, hfilters, hcampaign, hmode⟩
    exact ⟨_, htable, _, hfilters, _, hcampaign, _, hmode, rfl⟩

theorem filtersFrom_of_writtenAs {filters : List FilterSpec} {items : List Json}
    (h : List.Forall₂ FilterSpec.WrittenAs filters items) (position : Nat) :
    filtersFrom position items = .ok filters := by
  induction h generalizing position with
  | nil => rfl
  | cons hfirst _ ih =>
    rw [filtersFrom, FilterSpec.ofJson_of_writtenAs hfirst, ih]
    rfl

theorem ofJson_of_writtenAs (hr : r.Proper) (h : r.WrittenAs j) : ofJson j = .ok r := by
  obtain ⟨htable, hfilters, hmode, hbody⟩ := h
  have hfields := hbody.field?_eq (show ["table", "filters", "tipoCampana", "modoEnvio"].Nodup by decide)
  simp only [List.forall_mem_cons] at hfields
  obtain ⟨htableField, hfiltersField, hcampaignField, hmodeField, -⟩ := hfields
  refine ofJson_eq_ok_iff.mpr ⟨?_, ?_, ?_, ?_⟩
  · rw [htableField, tableOf, htable.trim_eq hr.table_trimmed, if_neg hr.table_ne_empty]
  · rw [hfiltersField, filtersOf, filtersFrom_of_writtenAs hfilters]
  · obtain ⟨name, hname⟩ := hr.campaign_named
    rw [hcampaignField, campaignOf, hname, CampaignKind.ofName_name_ofName?]
  · rw [hmodeField, modeOf, if_neg hmode.ne_empty, SendMode.read_of_writtenAs hmode]

theorem trimmed_of_tableOf (h : tableOf part = .ok table) : table ≠ "" ∧ Text.Trimmed table.toList := by
  unfold tableOf at h
  split at h
  · split at h
    · cases h
    · next s hne =>
      cases h
      exact ⟨hne, Text.toList_trim s ▸ Text.trimmed_trimChars s.toList⟩
  · cases h

theorem exists_name_of_campaignOf {kind : CampaignKind} (h : campaignOf part = .ok kind) :
    ∃ name, kind = CampaignKind.ofName? name := by
  unfold campaignOf at h
  split at h
  · exact ⟨none, (Except.ok.inj h).symm⟩
  · exact ⟨none, (Except.ok.inj h).symm⟩
  · next name => exact ⟨some name, (Except.ok.inj h).symm⟩
  · cases h

theorem proper_of_ofJson (h : ofJson j = .ok r) : r.Proper := by
  obtain ⟨htable, -, hcampaign, -⟩ := ofJson_eq_ok_iff.mp h
  obtain ⟨hne, htrimmed⟩ := trimmed_of_tableOf htable
  exact ⟨hne, htrimmed, exists_name_of_campaignOf hcampaign⟩

/-- A proper request is read from every body that it is written as, and a request that was read is proper, so it is read
from its own body again and has the same key. -/
theorem reads_back (r : FilterRequest) :
    (r.Proper → ofJson r.toJson = .ok r ∧ ∀ j, r.WrittenAs j → ofJson j = .ok r) ∧
      ∀ j, ofJson j = .ok r →
        r.Proper ∧ ofJson r.toJson = .ok r ∧ (ofJson r.toJson).map key = (ofJson j).map key := by
  refine ⟨fun hr => ⟨ofJson_of_writtenAs hr r.writtenAs_toJson, fun j => ofJson_of_writtenAs hr⟩, fun j hj => ?_⟩
  have hr := proper_of_ofJson hj
  have hsame := ofJson_of_writtenAs hr r.writtenAs_toJson
  exact ⟨hr, hsame, by rw [hsame, hj]⟩

/-- A filter as the list of its parts, other names in the objects, blanks around the table and behind the mode. -/
theorem reads_back_of_other_forms :
    let r : FilterRequest :=
      ⟨"clientes", [⟨"edad", "segmentacion", .str "30"⟩, ⟨"region", "", .arr [.null]⟩], .other "Promo", .m0⟩
    let j := Json.obj [("modoEnvio", .str "M0\n"), ("id", .null), ("table", .str "\u00a0clientes "),
      ("filters", .arr [.arr [.str "edad", .str "segmentacion", .str "30"],
        .obj [("value", .arr [.null]), ("group", .bool true), ("column", .str "region"), ("type", .str "")]]),
      ("tipoCampana", .str "Promo")]
    r.Proper ∧ r.WrittenAs j ∧ ofJson j = .ok r ∧ (ofJson r.toJson).map key = (ofJson j).map key := by
  intro r j
  have htrimmed : Text.Trimmed "clientes".toList := by
    constructor
    · rintro c ⟨⟩
      decide
    · rintro c ⟨⟩
      decide
  have hproper : r.Proper := ⟨by decide, htrimmed, some "Promo", by decide⟩
  have htable : Text.Padded "clientes" "\u00a0clientes " :=
    ⟨['\u00a0'], [' '], List.forall_mem_singleton.mpr (by decide), List.forall_mem_singleton.mpr (by decide), by decide⟩
  have hfilter : FilterSpec.WrittenAs ⟨"region", "", .arr [.null]⟩
      (.obj [("value", .arr [.null]), ("group", .bool true), ("column", .str "region"), ("type", .str "")]) :=
    .object (.intro (List.perm_append_singleton _ _).symm)
  have hmode : SendMode.m0.WrittenAs "M0\n" := by
    refine ⟨"M0", .cons (.inr (by decide)) (.cons (.inl rfl) .nil), [], ['\n'], Text.blanks_nil, ?_, by decide⟩
    exact List.forall_mem_singleton.mpr (by decide)
  have hwritten : r.WrittenAs j := by
    refine .intro htable (.cons .parts (.cons hfilter .nil)) hmode (.intro ?_)
    exact (List.perm_append_singleton _ _).symm
  have hread := ((reads_back r).1 hproper).2 j hwritten
  exact ⟨hproper, hwritten, hread, ((reads_back r).2 j hread).2.2⟩

end FilterRequest

end Audience
