import Audience.Filter.Template
import Audience.Proofs.Text.Cutting
import Audience.Warehouse.Memory

/-!
Which table a statement takes its rows from. A warehouse in memory looks for the first reference to a registered table, a
dot, the name and a quote. In the text around a `WHERE` text the base table stands in the first reference of all: in front
of it there is one dot, and what follows that one is the dataset, which no quote ends (`place_of_reference`). So whatever
the text refers to behind it, and in whatever order the tables are looked through, the rows are those of the base table.
-/

namespace Audience

/-- The characters have no part of a reference: no dot and no quote. -/
def Bare (cs : List Char) : Prop := '.' ∉ cs ∧ '`' ∉ cs

instance (cs : List Char) : Decidable (Bare cs) := inferInstanceAs (Decidable (_ ∧ _))

namespace TableRef

variable {admitted : Char → Bool} {s : String} {t : TableRef}

theorem bare_of_isIdentifier (hdot : admitted '.' = false) (hquote : admitted '`' = false)
    (h : isIdentifier admitted s = true) : Bare s.toList := by
  unfold isIdentifier at h
  split at h
  · cases h
  · next c cs hchars =>
    obtain ⟨hstart, hrest⟩ := Bool.and_eq_true_iff.mp h
    rw [hchars]
    refine ⟨fun hmem => ?_, fun hmem => ?_⟩
    · rcases List.mem_cons.mp hmem with rfl | hmem
      · cases hstart
      · exact absurd (List.all_eq_true.mp hrest _ hmem) (by simp [hdot])
    · rcases List.mem_cons.mp hmem with rfl | hmem
      · cases hstart
      · exact absurd (List.all_eq_true.mp hrest _ hmem) (by simp [hquote])

/-- No part of a full name has a part of a reference in it. -/
theorem Valid.bare (h : t.Valid) : Bare t.project.toList ∧ Bare t.dataset.toList ∧ Bare t.table.toList := by
  obtain ⟨hproject, hdataset, htable⟩ := (valid_iff t).mp h
  exact ⟨bare_of_isIdentifier rfl rfl hproject, bare_of_isIdentifier rfl rfl hdataset, bare_of_isIdentifier rfl rfl htable⟩

end TableRef

/-! ### The text -/

/-- What stands in front of the name of the base table. -/
def QueryTemplates.front : List Char := "WITH filtrado AS (\n".toList ++ "  SELECT * FROM `".toList

/-- What stands in front of the first reference. -/
def QueryTemplates.beforeBase (table : TableRef) : List Char :=
  front ++ table.project.toList ++ '.' :: table.dataset.toList

theorem QueryTemplates.sql_eq (templates : QueryTemplates) (table : TableRef) (whereText : String)
    (campaign : CampaignKind) (mode : SendMode) : ∃ tail, templates.sql table whereText campaign mode =
      "WITH filtrado AS (\n" ++ ("  SELECT * FROM `" ++
        (table.project ++ ("." ++ (table.dataset ++ ("." ++ (table.table ++ ("` WHERE " ++ tail))))))) := by
  -- The appends are put in one order only, so that the long texts stay closed.
  unfold sql
  simp only [TableRef.qualified, String.append_assoc, -String.reduceAppend]
  exact ⟨_, rfl⟩

/-- Behind the project and the dataset the text has a reference to the base table. -/
theorem QueryTemplates.toList_sql (templates : QueryTemplates) (table : TableRef) (whereText : String)
    (campaign : CampaignKind) (mode : SendMode) : ∃ rest, (templates.sql table whereText campaign mode).toList =
      beforeBase table ++ '.' :: (table.table.toList ++ '`' :: rest) := by
  obtain ⟨tail, htail⟩ := templates.sql_eq table whereText campaign mode
  have hdot : ".".toList = ['.'] := rfl
  have hquote : "` WHERE ".toList = '`' :: " WHERE ".toList := by decide
  refine ⟨" WHERE ".toList ++ tail.toList, ?_⟩
  rw [htail]
  unfold beforeBase front
  simp only [String.toList_append, List.append_assoc, hdot, hquote, List.cons_append, List.nil_append]

namespace MemoryWarehouse

open QueryTemplates (beforeBase)

variable {w : MemoryWarehouse} {ref : TableRef} {sql name : String} {before after rest : List Char} {n : Nat}
  {listing : List (String × MemoryTable)} {t : MemoryTable}

/-! ### References -/

/-- A reference to a table stands behind the one to the base table, or it is that one. -/
theorem place_of_reference (hvalid : ref.Valid) (hname : Bare name.toList)
    (h : beforeBase ref ++ '.' :: (ref.table.toList ++ '`' :: rest) = before ++ '.' :: (name.toList ++ '`' :: after)) :
    (beforeBase ref).length < before.length ∨ (before = beforeBase ref ∧ name = ref.table) := by
  obtain ⟨⟨hproject, -⟩, ⟨hdataset, hquote⟩, ⟨-, htable⟩⟩ := hvalid.bare
  rcases Text.append_cons_cases h with ⟨hbefore, -, hsame⟩ | ⟨between, hbefore, hbetween⟩ | ⟨between, rfl, -⟩
  · rcases Text.append_cons_cases hsame with ⟨hchars, -⟩ | ⟨_, hchars, -⟩ | ⟨_, hchars, -⟩
    · exact .inr ⟨hbefore.symm, String.toList_injective hchars.symm⟩
    · exact absurd (hchars ▸ List.mem_append_right _ List.mem_cons_self) htable
    · exact absurd (hchars ▸ List.mem_append_right _ List.mem_cons_self) hname.2
  · -- The dot is the only one in front of the base table, so the dataset follows, and then a dot and no quote.
    have hfront : '.' ∉ QueryTemplates.front ++ ref.project.toList := by
      rw [List.mem_append, not_or]
      exact ⟨by decide, hproject⟩
    rcases Text.append_cons_cases hbefore with ⟨-, -, rfl⟩ | ⟨_, hdot, -⟩ | ⟨_, -, hdot⟩
    · rcases Text.append_cons_cases hbetween with ⟨-, hmark, -⟩ | ⟨_, hchars, -⟩ | ⟨_, hchars, -⟩
      · cases hmark
      · exact absurd (hchars ▸ List.mem_append_right _ List.mem_cons_self) hname.1
      · exact absurd (hchars ▸ List.mem_append_right _ List.mem_cons_self) hquote
    · exact absurd (hdot ▸ List.mem_append_right _ List.mem_cons_self) hfront
    · exact absurd (hdot ▸ List.mem_append_right _ List.mem_cons_self) hdataset
  · left
    simp

theorem reference_eq (name : String) : reference name = '.' :: (name.toList ++ ['`']) := by
  simp [reference]

theorem firstReference?_eq_some (hvalid : ref.Valid) (hname : Bare name.toList)
    (hsql : sql.toList = beforeBase ref ++ '.' :: (ref.table.toList ++ '`' :: rest))
    (h : firstReference? sql name = some n) :
    (beforeBase ref).length < n ∨ (n = (beforeBase ref).length ∧ name = ref.table) := by
  obtain ⟨⟨before, after⟩, hsplit, rfl⟩ := Option.map_eq_some_iff.mp h
  have hchars : beforeBase ref ++ '.' :: (ref.table.toList ++ '`' :: rest) =
      before ++ '.' :: (name.toList ++ '`' :: after) := by
    rw [← hsql, Text.append_of_splitOnce hsplit, reference_eq]
    simp
  exact (place_of_reference hvalid hname hchars).imp id fun ⟨hbefore, heq⟩ => ⟨congrArg List.length hbefore, heq⟩

theorem firstReference?_base (hvalid : ref.Valid)
    (hsql : sql.toList = beforeBase ref ++ '.' :: (ref.table.toList ++ '`' :: rest)) :
    firstReference? sql ref.table = some (beforeBase ref).length := by
  obtain ⟨front, behind, hsplit, hle⟩ := Text.splitOnce_le (beforeBase ref) (reference ref.table) rest
  have hfound : firstReference? sql ref.table = some front.length := by
    rw [firstReference?, hsql, show '.' :: (ref.table.toList ++ '`' :: rest) = reference ref.table ++ rest by
      simp [reference_eq], hsplit]
    rfl
  rcases firstReference?_eq_some hvalid hvalid.bare.2.2 hsql hfound with hlt | ⟨heq, -⟩
  · omega
  · rw [hfound, heq]

/-! ### Tables -/

theorem exists_of_earliest (h : earliest sql listing = some (n, t)) :
    ∃ e ∈ listing, firstReference? sql e.1 = some n ∧ e.2 = t := by
  induction listing with
  | nil => cases h
  | cons e rest ih =>
    have hrest : earliest sql rest = some (n, t) → ∃ e' ∈ e :: rest, firstReference? sql e'.1 = some n ∧ e'.2 = t :=
      fun hfound => by
        obtain ⟨e', hmem, hfirst⟩ := ih hfound
        exact ⟨e', List.mem_cons_of_mem _ hmem, hfirst⟩
    rw [earliest] at h
    split at h
    · exact hrest h
    · next m hfirst _ =>
      cases h
      exact ⟨e, List.mem_cons_self, hfirst, rfl⟩
    · next m k u hfirst hfound =>
      split at h
      · cases h
        exact ⟨e, List.mem_cons_self, hfirst, rfl⟩
      · exact hrest (hfound.trans h)

theorem earliest_le {e : String × MemoryTable} (hmem : e ∈ listing) (h : firstReference? sql e.1 = some n) :
    ∃ m u, earliest sql listing = some (m, u) ∧ m ≤ n := by
  induction listing with
  | nil => cases hmem
  | cons e' rest ih =>
    rw [earliest]
    rcases List.mem_cons.mp hmem with rfl | hmem
    · rw [h]
      cases earliest sql rest with
      | none => exact ⟨n, e.2, rfl, Nat.le_refl _⟩
      | some found =>
        obtain ⟨m, u⟩ := found
        dsimp only
        split
        · exact ⟨n, e.2, rfl, Nat.le_refl _⟩
        · next hlt => exact ⟨m, u, rfl, by omega⟩
    · obtain ⟨m, u, hfound, hle⟩ := ih hmem
      rw [hfound]
      cases firstReference? sql e'.1 with
      | none => exact ⟨m, u, rfl, hle⟩
      | some k =>
        dsimp only
        split
        · next hk => exact ⟨k, e'.2, rfl, by omega⟩
        · exact ⟨m, u, rfl, hle⟩

/-- Of tables with distinct names the base table is found, in whatever order they are listed. -/
theorem earliest_base (hvalid : ref.Valid)
    (hsql : sql.toList = beforeBase ref ++ '.' :: (ref.table.toList ++ '`' :: rest))
    (hnames : ∀ e ∈ listing, Bare e.1.toList) (hbase : ∀ u, (ref.table, u) ∈ listing ↔ u = t) :
    earliest sql listing = some ((beforeBase ref).length, t) := by
  have hmem : (ref.table, t) ∈ listing := (hbase t).mpr rfl
  obtain ⟨m, u, hfound, hle⟩ := earliest_le hmem (firstReference?_base hvalid hsql)
  obtain ⟨⟨name, u'⟩, he, hfirst, rfl⟩ := exists_of_earliest hfound
  rcases firstReference?_eq_some hvalid (hnames _ he) hsql hfirst with hlt | ⟨rfl, rfl⟩
  · omega
  · rw [hfound, (hbase u').mp he]

/-- The rows of a statement around any `WHERE` text are those of its base table, whatever the text holds and in whatever
order the tables are looked through. -/
theorem answers_from_base_table (w : MemoryWarehouse) (ref : TableRef) (t : MemoryTable) (templates : QueryTemplates)
    (whereText : String) (campaign : CampaignKind) (mode : SendMode) (params : Params)
    (hnames : ∀ name ∈ w.tables.names, Bare name.toList) (hvalid : ref.Valid) (hbase : w.tables.get? ref.table = some t)
    (hcolumns : mentions (templates.sql ref whereText campaign mode) "INFORMATION_SCHEMA.COLUMNS" = false)
    (htables : mentions (templates.sql ref whereText campaign mode) "INFORMATION_SCHEMA.TABLES" = false)
    (hworks : w.failure = none) :
    w.answer ⟨templates.sql ref whereText campaign mode, params⟩ = .ok t.rows ∧
      ∀ listing, listing.Perm w.tables.entries →
        (earliest (templates.sql ref whereText campaign mode) listing).map (·.2) = some t := by
  obtain ⟨rest, hsql⟩ := templates.toList_sql ref whereText campaign mode
  have hlisted : ∀ listing, listing.Perm w.tables.entries →
      earliest (templates.sql ref whereText campaign mode) listing = some ((beforeBase ref).length, t) := by
    intro listing hperm
    refine earliest_base hvalid hsql (fun e he => ?_) fun u => ?_
    · exact hnames e.1 (List.mem_map_of_mem (hperm.mem_iff.mp he))
    · rw [hperm.mem_iff]
      refine ⟨fun hmem => ?_, fun heq => ?_⟩
      · exact Option.some.inj ((NameMap.get?_of_mem hmem).symm.trans hbase)
      · rw [heq]
        exact NameMap.mem_of_get? hbase
  refine ⟨?_, fun listing hperm => by rw [hlisted listing hperm]; rfl⟩
  simp only [answer, hworks, hcolumns, htables, tableRows, hlisted _ (List.Perm.refl _), Bool.false_eq_true, if_false]

/-- Four tables, one of them the companion, one named by the start of the base table's name and one by its end. -/
def alike : MemoryWarehouse :=
  (["cliente", "clientes", "contactos", "es"].foldl (fun w name => w.register name []) empty).setRows "clientes"
    [NameMap.empty.insert "telefono" (.string "5491122334455")]

/-- The `WHERE` text refers to the companion and to the table named by the end of the base table's name. -/
theorem alike_answers_from_base_table :
    alike.answer ⟨({} : QueryTemplates).sql ⟨"segmento", "campanas", "clientes"⟩
        "nombre = '.contactos`' OR apellido = '.es`'" .fidelity .m0, {}⟩ =
      .ok [NameMap.empty.insert "telefono" (.string "5491122334455")] := by
  have hmentions : ∀ part ∈ ["INFORMATION_SCHEMA.COLUMNS", "INFORMATION_SCHEMA.TABLES"],
      mentions (({} : QueryTemplates).sql ⟨"segmento", "campanas", "clientes"⟩
        "nombre = '.contactos`' OR apellido = '.es`'" .fidelity .m0) part = false := by
    unfold mentions QueryTemplates.sql
    simp only [TableRef.qualified, String.toList_append, -String.reduceAppend]
    decide +kernel
  exact (answers_from_base_table alike ⟨"segmento", "campanas", "clientes"⟩
    ⟨[], [NameMap.empty.insert "telefono" (.string "5491122334455")]⟩ {}
    "nombre = '.contactos`' OR apellido = '.es`'" .fidelity .m0 {} (by decide +kernel) (by decide +kernel)
    (by decide +kernel) (hmentions _ (by simp)) (hmentions _ (by simp)) rfl).1

end MemoryWarehouse

end Audience
