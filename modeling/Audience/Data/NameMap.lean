/-!
Finite maps from names. The entries stand in ascending order of their names, each name once, so two maps
with the same values are equal and every listing of a map has one order. `get?_insert` is the law of the
update; `get?_ofList` says that a list gives each name the last value it has there.
-/

namespace Audience

namespace NameMap

variable {α : Type}

/-- Names are ascending. -/
def Ascending (entries : List (String × α)) : Prop := entries.Pairwise fun a b => a.1 < b.1

/-- Puts the value under the name, in place of the one there. -/
def insertEntry (name : String) (value : α) : List (String × α) → List (String × α)
  | [] => [(name, value)]
  | (other, v) :: rest =>
    if name = other then (name, value) :: rest
    else if name < other then (name, value) :: (other, v) :: rest
    else (other, v) :: insertEntry name value rest

theorem mem_insertEntry {name : String} {value : α} {entries : List (String × α)} {e : String × α}
    (h : e ∈ insertEntry name value entries) : e = (name, value) ∨ e ∈ entries := by
  induction entries with
  | nil => exact Or.inl (by simpa [insertEntry] using h)
  | cons o rest ih =>
    unfold insertEntry at h
    split at h
    · rcases List.mem_cons.mp h with h | h
      · exact Or.inl h
      · exact Or.inr (List.mem_cons_of_mem _ h)
    · split at h
      · rcases List.mem_cons.mp h with h | h
        · exact Or.inl h
        · exact Or.inr h
      · rcases List.mem_cons.mp h with h | h
        · exact Or.inr (h ▸ List.mem_cons_self)
        · exact (ih h).imp id (List.mem_cons_of_mem _)

theorem lt_of_not_lt {a b : String} (hne : a ≠ b) (h : ¬a < b) : b < a := by
  rcases String.le_total (a := a) (b := b) with hab | hba
  · exact absurd (String.le_antisymm hab (String.not_lt.mp h)) hne
  · exact String.not_le.mp fun hab => hne (String.le_antisymm hab hba)

theorem ascending_insertEntry (name : String) (value : α) {entries : List (String × α)}
    (h : Ascending entries) : Ascending (insertEntry name value entries) := by
  induction entries with
  | nil => simp [insertEntry, Ascending]
  | cons o rest ih =>
    obtain ⟨hhead, htail⟩ := List.pairwise_cons.mp h
    unfold insertEntry
    split
    · next heq => exact List.pairwise_cons.mpr ⟨fun e he => heq ▸ hhead e he, htail⟩
    · next hne =>
      split
      · next hlt =>
        refine List.pairwise_cons.mpr ⟨fun e he => ?_, h⟩
        rcases List.mem_cons.mp he with rfl | he
        · exact hlt
        · exact String.lt_trans hlt (hhead e he)
      · next hnlt =>
        refine List.pairwise_cons.mpr ⟨fun e he => ?_, ih htail⟩
        rcases mem_insertEntry he with rfl | he
        · exact lt_of_not_lt hne hnlt
        · exact hhead e he

theorem lookup_insertEntry (name : String) (value : α) {entries : List (String × α)} (h : Ascending entries)
    (other : String) :
    (insertEntry name value entries).lookup other =
      if other = name then some value else entries.lookup other := by
  induction entries with
  | nil =>
    by_cases ho : other = name
    · simp [insertEntry, ho]
    · simp [insertEntry, List.lookup_cons, ho, beq_false_of_ne ho]
  | cons o rest ih =>
    obtain ⟨hhead, htail⟩ := List.pairwise_cons.mp h
    unfold insertEntry
    split
    · next heq =>
      by_cases ho : other = name
      · simp [ho]
      · rw [if_neg ho, List.lookup_cons, List.lookup_cons, ← heq, beq_false_of_ne ho]
    · next hne =>
      split
      · by_cases ho : other = name
        · simp [ho]
        · rw [if_neg ho, List.lookup_cons, beq_false_of_ne ho]
      · rw [List.lookup_cons, List.lookup_cons, ih htail]
        by_cases ho : other = name
        · subst ho
          simp [beq_false_of_ne hne]
        · simp [ho]

end NameMap

/-- A finite map from names: its entries in ascending order of the names. -/
structure NameMap (α : Type) where
  entries : List (String × α)
  ascending : NameMap.Ascending entries := by simp [NameMap.Ascending]
deriving DecidableEq

namespace NameMap

variable {α β : Type}

/-- The map without entries. -/
def empty : NameMap α where
  entries := []

instance : EmptyCollection (NameMap α) := ⟨empty⟩

instance : Inhabited (NameMap α) := ⟨empty⟩

/-- The value under a name. -/
def get? (m : NameMap α) (name : String) : Option α := m.entries.lookup name

/-- Puts the value under the name, in place of the one there. -/
def insert (m : NameMap α) (name : String) (value : α) : NameMap α :=
  ⟨insertEntry name value m.entries, ascending_insertEntry name value m.ascending⟩

/-- The map of the entries; of two with one name the later one stays. -/
def ofList (entries : List (String × α)) : NameMap α :=
  entries.foldl (fun m e => m.insert e.1 e.2) empty

/-- The names in ascending order. -/
def names (m : NameMap α) : List String := m.entries.map (·.1)

/-- How many entries there are. -/
def size (m : NameMap α) : Nat := m.entries.length

/-- There is a value under the name. -/
def contains (m : NameMap α) (name : String) : Bool := (m.get? name).isSome

/-- The entries that pass the test. -/
def filter (m : NameMap α) (p : String → α → Bool) : NameMap α :=
  ⟨m.entries.filter fun e => p e.1 e.2, m.ascending.sublist List.filter_sublist⟩

/-- The map without the entry under the name. -/
def erase (m : NameMap α) (name : String) : NameMap α := m.filter fun other _ => other ≠ name

/-- The map with every value changed by `f`. -/
def map (f : α → β) (m : NameMap α) : NameMap β :=
  ⟨m.entries.map fun e => (e.1, f e.2), by
    have h := m.ascending
    unfold Ascending at h ⊢
    exact List.pairwise_map.mpr h⟩

theorem ext {m n : NameMap α} (h : m.entries = n.entries) : m = n := by
  cases m
  cases n
  cases h
  rfl

@[simp] theorem get?_empty (name : String) : (empty : NameMap α).get? name = none := rfl

theorem get?_insert (m : NameMap α) (name : String) (value : α) (other : String) :
    (m.insert name value).get? other = if other = name then some value else m.get? other :=
  lookup_insertEntry name value m.ascending other

theorem get?_foldl_insert (entries : List (String × α)) (m : NameMap α) (name : String) :
    (entries.foldl (fun m e => m.insert e.1 e.2) m).get? name =
      (entries.reverse.lookup name).or (m.get? name) := by
  induction entries generalizing m with
  | nil => simp
  | cons e rest ih =>
    rw [List.foldl_cons, ih, get?_insert, List.reverse_cons, List.lookup_append, List.lookup_cons,
      List.lookup_nil]
    by_cases h : name = e.1
    · cases List.lookup name rest.reverse <;> simp [h]
    · cases List.lookup name rest.reverse <;> simp [h, beq_false_of_ne h]

theorem lookup_eq_none_of_lt {name : String} {entries : List (String × α)} (h : ∀ e ∈ entries, name < e.1) :
    entries.lookup name = none := by
  refine List.lookup_eq_none_iff.mpr fun e he => bne_iff_ne.mpr fun heq => ?_
  exact String.lt_irrefl name (heq ▸ h e he)

theorem eq_of_lookup_eq {es fs : List (String × α)} (hes : Ascending es) (hfs : Ascending fs)
    (h : ∀ name, es.lookup name = fs.lookup name) : es = fs := by
  induction es generalizing fs with
  | nil =>
    cases fs with
    | nil => rfl
    | cons f fs =>
      have hfirst := h f.1
      rw [List.lookup_cons, beq_self_eq_true] at hfirst
      cases hfirst
  | cons e es ih =>
    cases fs with
    | nil =>
      have hfirst := h e.1
      rw [List.lookup_cons, beq_self_eq_true] at hfirst
      cases hfirst
    | cons f fs =>
      obtain ⟨name, v⟩ := e
      obtain ⟨other, w⟩ := f
      obtain ⟨hhead, hestail⟩ := List.pairwise_cons.mp hes
      obtain ⟨hhead', hfstail⟩ := List.pairwise_cons.mp hfs
      -- The lesser one of two different first names would stand in one list only.
      have hname : name = other := by
        refine Decidable.byContradiction fun hne => ?_
        by_cases hlt : name < other
        · have hnone : fs.lookup name = none :=
            lookup_eq_none_of_lt fun e he => String.lt_trans hlt (hhead' e he)
          simpa [List.lookup_cons, beq_false_of_ne hne, hnone] using h name
        · have hlt := lt_of_not_lt hne hlt
          have hnone : es.lookup other = none :=
            lookup_eq_none_of_lt fun e he => String.lt_trans hlt (hhead e he)
          simpa [List.lookup_cons, beq_false_of_ne (Ne.symm hne), hnone] using h other
      subst hname
      have hvalue : v = w := by simpa using h name
      have hrest : ∀ key, es.lookup key = fs.lookup key := by
        intro key
        by_cases hkey : key = name
        · rw [hkey, lookup_eq_none_of_lt hhead, lookup_eq_none_of_lt hhead']
        · simpa [List.lookup_cons, beq_false_of_ne hkey] using h key
      rw [hvalue, ih hestail hfstail hrest]

/-- Maps with the same values are equal. -/
theorem ext_get? {m n : NameMap α} (h : ∀ name, m.get? name = n.get? name) : m = n :=
  ext (eq_of_lookup_eq m.ascending n.ascending h)

theorem nodup_names (m : NameMap α) : m.names.Nodup := by
  have h := m.ascending
  unfold Ascending at h
  refine List.pairwise_map.mpr (h.imp fun {a b} hlt heq => ?_)
  rw [heq] at hlt
  exact String.lt_irrefl _ hlt

theorem mem_names_iff {m : NameMap α} {name : String} : name ∈ m.names ↔ (m.get? name).isSome := by
  simp only [names, List.mem_map, get?]
  induction m.entries with
  | nil => simp
  | cons e rest ih =>
    rw [List.lookup_cons]
    by_cases h : name = e.1
    · simp [h]
    · simp [beq_false_of_ne h, ← ih, Ne.symm h]

theorem get?_of_mem {m : NameMap α} {name : String} {value : α} (h : (name, value) ∈ m.entries) :
    m.get? name = some value := by
  obtain ⟨before, later, heq⟩ := List.append_of_mem h
  have hnodup := m.nodup_names
  rw [names, heq, List.map_append, List.nodup_append] at hnodup
  refine List.lookup_eq_some_iff.mpr ⟨before, later, heq, fun e he => bne_iff_ne.mpr fun hname => ?_⟩
  exact hnodup.2.2 e.1 (List.mem_map_of_mem he) name List.mem_cons_self hname.symm

theorem mem_of_get? {m : NameMap α} {name : String} {value : α} (h : m.get? name = some value) :
    (name, value) ∈ m.entries := by
  obtain ⟨before, later, heq, -⟩ := List.lookup_eq_some_iff.mp h
  rw [heq]
  exact List.mem_append_right _ List.mem_cons_self

theorem lookup_filter {entries : List (String × α)} (h : (entries.map (·.1)).Nodup) (p : String → α → Bool)
    (name : String) :
    (entries.filter fun e => p e.1 e.2).lookup name = (entries.lookup name).filter (p name) := by
  induction entries with
  | nil => rfl
  | cons e rest ih =>
    obtain ⟨other, value⟩ := e
    obtain ⟨hnotin, hrest⟩ := List.nodup_cons.mp h
    rw [List.lookup_cons, List.filter_cons]
    by_cases hname : name = other
    · subst hname
      by_cases hp : p name value
      · simp [hp, Option.filter]
      · have hnone : rest.lookup name = none := List.lookup_eq_none_iff.mpr fun x hx =>
          bne_iff_ne.mpr fun heq => hnotin (List.mem_map.mpr ⟨x, hx, heq.symm⟩)
        simp [hp, ih hrest, hnone, Option.filter]
    · by_cases hp : p other value
      · rw [if_pos hp, List.lookup_cons, beq_false_of_ne hname]
        exact ih hrest
      · rw [if_neg hp, beq_false_of_ne hname]
        exact ih hrest

/-- Each name stands once, so the test of an entry decides about its name. -/
theorem get?_filter (m : NameMap α) (p : String → α → Bool) (name : String) :
    (m.filter p).get? name = (m.get? name).filter (p name) :=
  lookup_filter m.nodup_names p name

@[simp] theorem get?_erase (m : NameMap α) (name other : String) :
    (m.erase name).get? other = if other = name then none else m.get? other := by
  rw [erase, get?_filter]
  by_cases h : other = name
  · cases m.get? other <;> simp [h, Option.filter]
  · cases m.get? other <;> simp [h, Option.filter]

theorem names_insertEntry_congr (name : String) {v w : α} {es fs : List (String × α)}
    (h : es.map (·.1) = fs.map (·.1)) :
    (insertEntry name v es).map (·.1) = (insertEntry name w fs).map (·.1) := by
  induction es generalizing fs with
  | nil =>
    obtain rfl := List.map_eq_nil_iff.mp h.symm
    rfl
  | cons e es ih =>
    obtain ⟨f, fs, rfl, hname, hrest⟩ := List.map_eq_cons_iff.mp h.symm
    obtain ⟨other, x⟩ := e
    obtain ⟨other', y⟩ := f
    obtain rfl : other' = other := hname
    unfold insertEntry
    split
    · simp [hrest]
    · split
      · simp [hrest]
      · simp [ih hrest.symm]

/-- A list gives each name the last value it has there. -/
theorem get?_ofList (entries : List (String × α)) (name : String) :
    (ofList entries).get? name = entries.reverse.lookup name := by
  simp [ofList, get?_foldl_insert]

/-- Where a list has one value for a name, this is the value that it gives. -/
theorem get?_ofList_eq_some_iff {entries : List (String × α)} {name : String} {value : α}
    (h : ∀ v w, (name, v) ∈ entries → (name, w) ∈ entries → v = w) :
    (ofList entries).get? name = some value ↔ (name, value) ∈ entries := by
  have hmem : ∀ v, entries.reverse.lookup name = some v → (name, v) ∈ entries := by
    intro v hv
    obtain ⟨before, later, heq, -⟩ := List.lookup_eq_some_iff.mp hv
    have hv : (name, v) ∈ entries.reverse := heq ▸ List.mem_append_right _ List.mem_cons_self
    exact List.mem_reverse.mp hv
  rw [get?_ofList]
  constructor
  · exact hmem value
  · intro hvalue
    have hsome : (entries.reverse.lookup name).isSome :=
      List.lookup_isSome_iff.mpr ⟨(name, value), List.mem_reverse.mpr hvalue, by simp⟩
    obtain ⟨v, hv⟩ := Option.isSome_iff_exists.mp hsome
    rw [hv, h v value (hmem v hv) hvalue]

/-- The names of a map depend on the names of the list alone. -/
theorem names_ofList_congr {es fs : List (String × α)} (h : es.map (·.1) = fs.map (·.1)) :
    (ofList es).names = (ofList fs).names := by
  have hfold : ∀ m n : NameMap α, m.names = n.names →
      (es.foldl (fun m e => m.insert e.1 e.2) m).names = (fs.foldl (fun m e => m.insert e.1 e.2) n).names := by
    induction es generalizing fs with
    | nil =>
      intro m n hnames
      obtain rfl := List.map_eq_nil_iff.mp h.symm
      exact hnames
    | cons e es ih =>
      intro m n hnames
      obtain ⟨f, fs, rfl, hname, hrest⟩ := List.map_eq_cons_iff.mp h.symm
      refine ih hrest.symm (m.insert e.1 e.2) (n.insert f.1 f.2) ?_
      rw [hname]
      exact names_insertEntry_congr e.1 hnames
  exact hfold empty empty rfl

end NameMap

end Audience
