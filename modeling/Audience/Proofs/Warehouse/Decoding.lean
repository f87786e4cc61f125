import Audience.Proofs.Number.Literal
import Audience.Proofs.Outcome
import Audience.Warehouse.Page

/-!
What rows of cells are read as. `Field.Shows` says which value a cell has under a field, and `Field.IsRow` which row
cells make: they are as many as the fields, and the row has the names of the fields and under each the value of its cell.
Rows are read all or none (`decodeRows_all_or_none`): one cell that its type does not read, an integer of more than 64
bits among them, and there is no row at all.
-/

namespace Audience

open Reading (SpelledInteger Spelled)

namespace NameMap

theorem get?_ofList_of_nodup {α : Type} {entries : List (String × α)} {name : String} {value : α}
    (hnames : (entries.map Prod.fst).Nodup) : (ofList entries).get? name = some value ↔ (name, value) ∈ entries :=
  get?_ofList_eq_some_iff fun _ _ hv hw => (Prod.mk.inj (List.inj_on_of_nodup_map hnames hv hw rfl)).2

end NameMap

namespace ColumnType

/-- The types whose cells are read. The cells of the others keep their text. -/
def IsRead : ColumnType → Prop
  | int64 => True
  | float64 => True
  | bool => True
  | _ => False

/-- A text and the value that a type reads it as. -/
inductive Reads : ColumnType → String → Value → Prop
  | int64 (text : String) (n : Int64) (spelled : SpelledInteger text.toList n.toInt) : Reads .int64 text (.int64 n)
  | float64 (text : String) (x : Float64) (spelled : Spelled text.toList x) : Reads .float64 text (.float64 x)
  | yes : Reads .bool "true" (.bool true)
  | no : Reads .bool "false" (.bool false)

variable {type : ColumnType} {text : String} {v : Value}

theorem valueOf_eq_ok_iff (h : type.IsRead) : Field.valueOf type text = .ok v ↔ type.Reads text v := by
  cases type with
  | int64 =>
    simp only [Field.valueOf, map_eq_ok_iff, mapError_eq_ok_iff, Reading.int64_eq_ok_iff_spelledInteger]
    constructor
    · rintro ⟨n, spelled, rfl⟩
      exact .int64 text n spelled
    · rintro ⟨_, n, spelled⟩
      exact ⟨n, spelled, rfl⟩
  | float64 =>
    simp only [Field.valueOf, map_eq_ok_iff, mapError_eq_ok_iff, Reading.float64_eq_ok_iff]
    constructor
    · rintro ⟨x, spelled, rfl⟩
      exact .float64 text x spelled
    · rintro ⟨⟩
      exact ⟨_, ‹_›, rfl⟩
  | bool =>
    simp only [Field.valueOf]
    constructor
    · intro hread
      split at hread
      · next hyes =>
        obtain rfl := Except.ok.inj hread
        exact hyes ▸ .yes
      · split at hread
        · next hno =>
          obtain rfl := Except.ok.inj hread
          exact hno ▸ .no
        · cases hread
    · rintro ⟨⟩
      · rfl
      · rfl
  | _ => exact h.elim

theorem valueOf_of_not_isRead (h : ¬type.IsRead) : Field.valueOf type text = .ok (.string text) := by
  cases type with
  | int64 | float64 | bool => exact absurd trivial h
  | _ => rfl

/-- No value is read from an integer outside the range. -/
theorem not_reads_int64 {k : Int} (spelled : SpelledInteger text.toList k) (hrange : ¬Value.InRange k) :
    ¬ColumnType.int64.Reads text v := by
  intro hreads
  obtain ⟨_, n, hn⟩ := hreads
  have hok := Reading.int64_eq_ok_iff_spelledInteger.mpr hn
  rw [Reading.int64_of_spelledInteger spelled] at hok
  unfold Value.InRange at hrange
  split at hok
  · cases hok
  · split at hok
    · cases hok
    · omega

end ColumnType

namespace Field

variable {f : Field} {fields : List Field} {cell : Json} {cells : List Json} {v : Value} {row row' : Row}

/-! ### Cells -/

/-- The texts in cells of the field are read. -/
def ReadsTexts (f : Field) : Prop := f.mode ≠ some "REPEATED" ∧ f.type.IsRead

theorem isRepeated_eq_false_iff : f.isRepeated = false ↔ f.mode ≠ some "REPEATED" := beq_eq_false_iff_ne

/-- The value that a cell shows under a field. -/
inductive Shows (f : Field) : Json → Value → Prop
  | null : Shows f .null .null
  | read (text : String) (v : Value) (texts : f.ReadsTexts) (reads : f.type.Reads text v) : Shows f (.str text) v
  | text (text : String) (texts : ¬f.ReadsTexts) : Shows f (.str text) (.string text)
  | other (cell : Json) (hnull : cell ≠ .null) (htext : ∀ text, cell ≠ .str text) : Shows f cell (.string cell.text)

/-- The cell is no text that the field cannot read. -/
def Accepts (f : Field) (cell : Json) : Prop := ∀ text, cell = .str text → f.ReadsTexts → ∃ v, f.type.Reads text v

theorem decode_str_of_readsTexts {text : String} (h : f.ReadsTexts) : f.decode (.str text) = valueOf f.type text := by
  rw [decode, isRepeated_eq_false_iff.mpr h.1, if_neg Bool.false_ne_true]

theorem decode_str_of_not_readsTexts {text : String} (h : ¬f.ReadsTexts) : f.decode (.str text) = .ok (.string text) := by
  cases hrepeated : f.isRepeated with
  | true => rw [decode, hrepeated, if_pos rfl]
  | false =>
    rw [decode, hrepeated, if_neg Bool.false_ne_true]
    exact ColumnType.valueOf_of_not_isRead fun hread => h ⟨isRepeated_eq_false_iff.mp hrepeated, hread⟩

theorem decode_eq_ok_iff : f.decode cell = .ok v ↔ f.Shows cell v := by
  cases cell with
  | null =>
    constructor
    · rintro ⟨⟩
      exact .null
    · intro h
      cases h with
      | null => rfl
      | other _ hnull => exact absurd rfl hnull
  | str text =>
    by_cases htexts : f.ReadsTexts
    · rw [decode_str_of_readsTexts htexts, ColumnType.valueOf_eq_ok_iff htexts.2]
      constructor
      · exact .read text v htexts
      · intro h
        cases h with
        | read _ _ _ reads => exact reads
        | text _ texts => exact absurd htexts texts
        | other _ _ htext => exact absurd rfl (htext text)
    · rw [decode_str_of_not_readsTexts htexts]
      constructor
      · rintro ⟨⟩
        exact .text text htexts
      · intro h
        cases h with
        | read _ _ texts _ => exact absurd texts htexts
        | text _ _ => rfl
        | other _ _ htext => exact absurd rfl (htext text)
  | _ =>
    constructor
    · rintro ⟨⟩
      exact .other _ nofun nofun
    · intro h
      cases h
      rfl

theorem exists_shows_iff : (∃ v, f.Shows cell v) ↔ f.Accepts cell := by
  constructor
  · rintro ⟨v, hshows⟩ text rfl htexts
    cases hshows with
    | read _ _ _ reads => exact ⟨v, reads⟩
    | text _ texts => exact absurd htexts texts
    | other _ _ htext => exact absurd rfl (htext text)
  · intro haccepts
    by_cases hnull : cell = .null
    · exact ⟨.null, hnull ▸ .null⟩
    · by_cases htext : ∃ text, cell = .str text
      · obtain ⟨text, rfl⟩ := htext
        by_cases htexts : f.ReadsTexts
        · obtain ⟨v, reads⟩ := haccepts text rfl htexts
          exact ⟨v, .read text v htexts reads⟩
        · exact ⟨.string text, .text text htexts⟩
      · exact ⟨.string cell.text, .other cell hnull fun text heq => htext ⟨text, heq⟩⟩

theorem Shows.unique {w : Value} (hv : f.Shows cell v) (hw : f.Shows cell w) : v = w :=
  Except.ok.inj ((decode_eq_ok_iff.mpr hv).symm.trans (decode_eq_ok_iff.mpr hw))

theorem decodeNamed_eq_ok_iff {e : String × Value} :
    decodeNamed f cell = .ok e ↔ e.1 = f.name ∧ f.Shows cell e.2 := by
  rw [← decode_eq_ok_iff, decodeNamed]
  obtain ⟨name, v⟩ := e
  cases f.decode cell <;> simp [eq_comm]

/-! ### Rows -/

/-- The row that cells make under the fields. -/
structure IsRow (fields : List Field) (cells : List Json) (row : Row) : Prop where
  width : cells.length = fields.length
  names : ∀ name, name ∈ row.names ↔ ∃ f ∈ fields, f.name = name
  values : ∀ (i : Nat) (f : Field) (cell : Json), fields[i]? = some f → cells[i]? = some cell →
    ∃ v, row.get? f.name = some v ∧ f.Shows cell v

/-- The cells of a row are as many as the fields, and each is accepted by its own field. -/
structure Fits (fields : List Field) (cells : List Json) : Prop where
  width : cells.length = fields.length
  accepts : ∀ (i : Nat) (f : Field) (cell : Json), fields[i]? = some f → cells[i]? = some cell → f.Accepts cell

theorem mem_zip_iff {p : Field × Json} :
    p ∈ fields.zip cells ↔ ∃ i : Nat, fields[i]? = some p.1 ∧ cells[i]? = some p.2 := by
  simp only [List.mem_iff_getElem?, List.getElem?_zip_eq_some]

theorem exists_entries_iff :
    (∃ entries, ((fields.zip cells).mapM fun p => decodeNamed p.1 p.2) = .ok entries) ↔
      ∀ (i : Nat) (f : Field) (cell : Json), fields[i]? = some f → cells[i]? = some cell → f.Accepts cell := by
  rw [exists_mapM_eq_ok_iff]
  constructor
  · intro hall i f cell hf hcell
    obtain ⟨e, he⟩ := hall (f, cell) (mem_zip_iff.mpr ⟨i, hf, hcell⟩)
    exact exists_shows_iff.mp ⟨e.2, (decodeNamed_eq_ok_iff.mp he).2⟩
  · intro hall p hp
    obtain ⟨i, hf, hcell⟩ := mem_zip_iff.mp hp
    obtain ⟨v, hv⟩ := exists_shows_iff.mpr (hall i p.1 p.2 hf hcell)
    exact ⟨(p.1.name, v), decodeNamed_eq_ok_iff.mpr ⟨rfl, hv⟩⟩

theorem exists_decodeRow_eq_ok_iff : (∃ row, decodeRow fields cells = .ok row) ↔ Fits fields cells := by
  by_cases hwidth : cells.length = fields.length
  · rw [decodeRow, if_pos hwidth]
    simp only [map_eq_ok_iff]
    constructor
    · rintro ⟨_, entries, hentries, -⟩
      exact ⟨hwidth, exists_entries_iff.mp ⟨entries, hentries⟩⟩
    · intro hfits
      obtain ⟨entries, hentries⟩ := exists_entries_iff.mpr hfits.accepts
      exact ⟨_, entries, hentries, rfl⟩
  · rw [decodeRow, if_neg hwidth]
    constructor
    · rintro ⟨row, hrow⟩
      cases hrow
    · intro hfits
      exact absurd hfits.width hwidth

/-- Cells that are read one to a field keep the names of the fields in order. -/
theorem names_of_mapM {entries : List (String × Value)} (hwidth : cells.length = fields.length)
    (h : List.Forall₂ (fun p e => decodeNamed p.1 p.2 = .ok e) (fields.zip cells) entries) :
    entries.map Prod.fst = fields.map Field.name := by
  have hnames : List.Forall₂ (fun p e => Field.name (Prod.fst p) = Prod.fst e) (fields.zip cells) entries :=
    h.imp fun _ _ he => (decodeNamed_eq_ok_iff.mp he).1.symm
  calc entries.map Prod.fst = (fields.zip cells).map (Field.name ∘ Prod.fst) := by
        rw [← List.forall₂_map_right_iff, ← List.forall₂_map_left_iff, List.forall₂_eq_eq_eq] at hnames
        exact hnames.symm
    _ = ((fields.zip cells).map Prod.fst).map Field.name := List.map_map.symm
    _ = fields.map Field.name := by rw [List.map_fst_zip hwidth.ge]

theorem isRow_of_decodeRow (hnames : (fields.map Field.name).Nodup) (h : decodeRow fields cells = .ok row) :
    IsRow fields cells row := by
  unfold decodeRow at h
  split at h
  · next hwidth =>
    obtain ⟨entries, hentries, rfl⟩ := map_eq_ok_iff.mp h
    have hall := mapM_eq_ok_iff.mp hentries
    have hsame := names_of_mapM hwidth hall
    have hget : ∀ {name v}, (NameMap.ofList entries).get? name = some v ↔ (name, v) ∈ entries :=
      NameMap.get?_ofList_of_nodup (hsame ▸ hnames)
    refine ⟨hwidth, fun name => ?_, fun i f cell hf hcell => ?_⟩
    · rw [NameMap.mem_names_iff, Option.isSome_iff_exists, ← List.mem_map, ← hsame]
      simp [hget]
    · have hzip : (fields.zip cells)[i]? = some (f, cell) := List.getElem?_zip_eq_some.mpr ⟨hf, hcell⟩
      obtain ⟨hi, heq⟩ := List.getElem?_eq_some_iff.mp hzip
      have hi' : i < entries.length := hall.length_eq ▸ hi
      have hread : decodeNamed (fields.zip cells)[i].1 (fields.zip cells)[i].2 = .ok entries[i] := hall.get hi hi'
      rw [heq] at hread
      obtain ⟨hname, hshows⟩ := decodeNamed_eq_ok_iff.mp hread
      have hmem : (entries[i].1, entries[i].2) ∈ entries := List.getElem_mem hi'
      rw [hname] at hmem
      exact ⟨entries[i].2, hget.mpr hmem, hshows⟩
  · cases h

theorem IsRow.unique (h : IsRow fields cells row) (h' : IsRow fields cells row') : row = row' := by
  refine NameMap.ext_get? fun name => ?_
  by_cases hname : ∃ f ∈ fields, f.name = name
  · obtain ⟨f, hf, rfl⟩ := hname
    obtain ⟨i, hi⟩ := List.mem_iff_getElem?.mp hf
    have hlt : i < cells.length := h.width ▸ (List.getElem?_eq_some_iff.mp hi).1
    obtain ⟨v, hv, hshows⟩ := h.values i f cells[i] hi (List.getElem?_eq_getElem hlt)
    obtain ⟨v', hv', hshows'⟩ := h'.values i f cells[i] hi (List.getElem?_eq_getElem hlt)
    rw [hv, hv', hshows.unique hshows']
  · have hnone : ∀ {row : Row}, IsRow fields cells row → row.get? name = none := by
      intro row hrow
      have hnot := mt (hrow.names name).mp hname
      rwa [NameMap.mem_names_iff, Bool.not_eq_true, Option.isSome_eq_false_iff, Option.isNone_iff_eq_none] at hnot
    rw [hnone h, hnone h']

theorem decodeRow_eq_ok_iff (hnames : (fields.map Field.name).Nodup) :
    decodeRow fields cells = .ok row ↔ IsRow fields cells row := by
  refine ⟨isRow_of_decodeRow hnames, fun h => ?_⟩
  have hfits : Fits fields cells := by
    refine ⟨h.width, fun i f cell hf hcell => exists_shows_iff.mp ?_⟩
    obtain ⟨v, -, hshows⟩ := h.values i f cell hf hcell
    exact ⟨v, hshows⟩
  obtain ⟨row', hrow'⟩ := exists_decodeRow_eq_ok_iff.mpr hfits
  rw [hrow', h.unique (isRow_of_decodeRow hnames hrow')]

/-! ### Results -/

/-- Every row fits and is read as itself, or there is no row. An integer outside the range is never taken for another. -/
theorem decodeRows_all_or_none (fields : List Field) (hnames : (fields.map Field.name).Nodup) (rows : List (List Json)) :
    ((∃ decoded, decodeRows fields rows = .ok decoded) ↔ ∀ cells ∈ rows, Fits fields cells) ∧
      (∀ decoded, decodeRows fields rows = .ok decoded ↔ List.Forall₂ (IsRow fields) rows decoded) ∧
      ∀ cells ∈ rows, ∀ (i : Nat) (f : Field) (text : String) (k : Int),
        fields[i]? = some f → cells[i]? = some (.str text) → f.mode ≠ some "REPEATED" → f.type = .int64 →
        SpelledInteger text.toList k → ¬Value.InRange k → ∃ e, decodeRows fields rows = .error e := by
  have hfits : (∃ decoded, decodeRows fields rows = .ok decoded) ↔ ∀ cells ∈ rows, Fits fields cells := by
    rw [decodeRows, exists_mapM_eq_ok_iff]
    exact forall₂_congr fun _ _ => exists_decodeRow_eq_ok_iff
  refine ⟨hfits, fun decoded => ?_, fun cells hcells i f text k hf hcell hrepeated htype spelled hrange => ?_⟩
  · simp only [decodeRows, mapM_eq_ok_iff, decodeRow_eq_ok_iff hnames]
  · refine exists_eq_error_iff.mpr fun decoded hok => ?_
    have haccepts := (hfits.mp ⟨decoded, hok⟩ cells hcells).accepts i f (.str text) hf hcell
    obtain ⟨v, hreads⟩ := haccepts text rfl ⟨hrepeated, htype ▸ trivial⟩
    rw [htype] at hreads
    exact ColumnType.not_reads_int64 spelled hrange hreads

theorem decodeRows_all_or_none_of_two_fields :
    ([⟨"edad", "INTEGER", none⟩, ⟨"tags", "STRING", some "REPEATED"⟩].map Field.name).Nodup ∧
      (∃ row, IsRow [⟨"edad", "INTEGER", none⟩, ⟨"tags", "STRING", some "REPEATED"⟩] [.str "+30", .arr []] row ∧
        row.get? "edad" = some (.int64 30) ∧ row.get? "tags" = some (.string "[]")) ∧
      ∃ e, decodeRows [⟨"edad", "INTEGER", none⟩, ⟨"tags", "STRING", some "REPEATED"⟩]
        [[.str "+30", .arr []], [.str "9223372036854775808", .null]] = .error e := by
  have hnames : ([⟨"edad", "INTEGER", none⟩, ⟨"tags", "STRING", some "REPEATED"⟩].map Field.name).Nodup := by decide
  refine ⟨hnames, ?_, ?_⟩
  · obtain ⟨-, hrows, -⟩ := decodeRows_all_or_none _ hnames [[.str "+30", .arr []]]
    have hread : decodeRows [⟨"edad", "INTEGER", none⟩, ⟨"tags", "STRING", some "REPEATED"⟩] [[.str "+30", .arr []]] =
        .ok [NameMap.ofList [("edad", .int64 30), ("tags", .string "[]")]] := by rfl
    exact ⟨_, (List.forall₂_cons.mp ((hrows _).mp hread)).1, rfl, rfl⟩
  · obtain ⟨-, -, hlarge⟩ :=
      decodeRows_all_or_none _ hnames [[.str "+30", .arr []], [.str "9223372036854775808", .null]]
    exact hlarge [.str "9223372036854775808", .null] (by simp) 0 ⟨"edad", "INTEGER", none⟩ "9223372036854775808"
      9223372036854775808 rfl rfl (by decide) (by decide +kernel) (.plain false (Numeral.ofNat 9223372036854775808)) (by decide)

end Field

end Audience
