import Audience.Catalog.Column
import Audience.Data.ColumnType
import Audience.Proofs.Number.Numeral
import Audience.Proofs.Text.Lowering

/-!
Which type a spelling names. A spelling is a name between blanks and what opens a length or an element type behind it
(`Written`); the type is read from the capitals of the name alone (`baseName_of_written`). The mode of a column is read
from the same text in another way, by its start. Both agree on arrays: what starts as one is text to the type
(`normalize_of_isArray`).
-/

namespace Audience

namespace Text

variable {cs ds : List Char}

/-! ### Letters in both cases -/

/-- A test that no letter passes does not see capitals. -/
theorem apply_toUpper {p : Char → Bool} (h : ∀ c, p c = true → c.isAlpha = false) (c : Char) : p c.toUpper = p c := by
  by_cases hlower : c.isLower = true
  · have hletter : c.isAlpha = true := by rw [Char.isAlpha, hlower, Bool.or_true]
    have hno : ∀ d : Char, d.isAlpha = true → p d = false := fun d hd => by
      by_contra hpass
      exact absurd hd (by simp [h d (Bool.eq_true_of_not_eq_false hpass)])
    rw [hno c hletter, hno c.toUpper ((Char.isAlpha_toUpper_eq_isAlpha c).trans hletter)]
  · rw [Char.toUpper_eq_of_not_isLower hlower]

theorem trimChars_map_toUpper (cs : List Char) : trimChars (cs.map Char.toUpper) = (trimChars cs).map Char.toUpper := by
  have hblank : isBlank ∘ Char.toUpper = isBlank := funext fun c => apply_toUpper (fun _ => isAlpha_of_isBlank) c
  simp only [trimChars, trimStartChars, trimEndChars, List.dropWhile_map, hblank, ← List.map_reverse]

/-- Each letter is as it was or in its other case. -/
def InOtherCase (cs ds : List Char) : Prop := List.Forall₂ (fun c d => d = c ∨ d = c.toUpper ∨ d = c.toLower) cs ds

theorem inOtherCase_map_toLower (cs : List Char) : InOtherCase cs (cs.map Char.toLower) :=
  List.forall₂_map_right_iff.mpr (List.forall₂_same.mpr fun _ _ => .inr (.inr rfl))

theorem InOtherCase.map_toUpper (h : InOtherCase cs ds) : ds.map Char.toUpper = cs.map Char.toUpper := by
  unfold InOtherCase at h
  induction h with
  | nil => rfl
  | cons hd _ ih =>
    rw [List.map_cons, List.map_cons, ih]
    rcases hd with rfl | rfl | rfl
    · rfl
    · rw [Char.toUpper_toUpper_eq_toUpper]
    · rw [Char.toUpper_toLower_eq_toUpper]

end Text

namespace ColumnType

open Text (trimChars Blanks InOtherCase trimChars_padded trimChars_map_toUpper exists_blanks_trimChars)

variable {raw other : String} {type : ColumnType} {before name after detail : List Char}

/-! ### Spellings -/

theorem opensDetail_iff {c : Char} : opensDetail c = true ↔ c = '(' ∨ c = '<' := by
  rw [opensDetail, Bool.or_eq_true, beq_iff_eq, beq_iff_eq]

theorem opensDetail_of_isBlank {c : Char} (h : Text.isBlank c = true) : opensDetail c = false := by
  by_contra hopens
  rcases opensDetail_iff.mp (Bool.eq_true_of_not_eq_false hopens) with rfl | rfl
  · exact absurd h (by decide)
  · exact absurd h (by decide)

theorem opensDetail_toUpper (c : Char) : opensDetail c.toUpper = opensDetail c := by
  refine Text.apply_toUpper (fun d hd => ?_) c
  rcases opensDetail_iff.mp hd with rfl | rfl
  · rfl
  · rfl

/-- The spelling is a name between blanks. Behind it stands nothing or what opens a length or an element type. -/
structure Written (raw : String) (before name after detail : List Char) : Prop where
  chars : raw.toList = before ++ (name ++ after) ++ detail
  before : Blanks before
  after : Blanks after
  name : ∀ c ∈ name, opensDetail c = false
  detail : ∀ c ∈ detail.head?, opensDetail c = true

/-- What stands in front of a length or an element type: the name, and blanks around it. -/
def frontOf (raw : String) : List Char := raw.toList.takeWhile fun c => !opensDetail c

theorem not_opensDetail_of_mem_frontOf {c : Char} (h : c ∈ frontOf raw) : opensDetail c = false := by
  simpa using List.all_eq_true.mp List.all_takeWhile c h

/-- Every spelling is written with the blanks taken off its name. -/
theorem written_trimmed (raw : String) :
    ∃ before after detail, Written raw before (trimChars (frontOf raw)) after detail := by
  obtain ⟨before, after, hbefore, hafter, hbetween⟩ := exists_blanks_trimChars (frontOf raw)
  refine ⟨before, after, raw.toList.dropWhile fun c => !opensDetail c, ?_, hbefore, hafter, fun c hc => ?_, fun c hc => ?_⟩
  · rw [← hbetween, frontOf, List.takeWhile_append_dropWhile]
  · have hfront : c ∈ frontOf raw := by
      rw [hbetween]
      exact List.mem_append_right _ (List.mem_append_left _ hc)
    exact not_opensDetail_of_mem_frontOf hfront
  · have hstop := List.head?_dropWhile_not (fun c => !opensDetail c) raw.toList
    rw [hc] at hstop
    simpa using hstop

theorem Written.frontOf_eq (h : Written raw before name after detail) : frontOf raw = before ++ (name ++ after) := by
  rw [frontOf, h.chars]
  refine Reading.takeWhile_append (fun c hc => ?_) fun c hc => by simp [h.detail c hc]
  rcases List.mem_append.mp hc with hc | hc
  · simp [opensDetail_of_isBlank (h.before c hc)]
  · rcases List.mem_append.mp hc with hc | hc
    · simp [h.name c hc]
    · simp [opensDetail_of_isBlank (h.after c hc)]

/-- The type is read from the capitals of the name. -/
theorem baseName_of_written (h : Written raw before name after detail) :
    baseName raw = String.ofList (trimChars (name.map Char.toUpper)) := by
  have hname : baseName raw = String.ofList ((trimChars (frontOf raw)).map Char.toUpper) := rfl
  rw [hname, h.frontOf_eq, trimChars_padded h.before h.after, trimChars_map_toUpper]

/-- The second spelling has the name of the first one in any case, with blanks added around it, and anything in place of
what stands behind it. -/
def Respelled (raw other : String) : Prop :=
  ∃ before name after detail, InOtherCase (frontOf raw) name ∧ Written other before name after detail

theorem Respelled.baseName_eq (h : Respelled raw other) : baseName other = baseName raw := by
  obtain ⟨before, name, after, detail, hcase, hwritten⟩ := h
  rw [baseName_of_written hwritten, hcase.map_toUpper, trimChars_map_toUpper]
  rfl

/-! ### Names -/

/-- All names of a type. -/
def names : ColumnType → List String
  | string => ["STRING"]
  | bytes => ["BYTES"]
  | bool => ["BOOL", "BOOLEAN"]
  | int64 => ["INT64", "INTEGER", "INT", "SMALLINT", "BIGINT", "TINYINT", "BYTEINT"]
  | float64 => ["FLOAT64", "FLOAT"]
  | numeric => ["NUMERIC", "DECIMAL"]
  | bigNumeric => ["BIGNUMERIC", "BIGDECIMAL"]
  | date => ["DATE"]
  | time => ["TIME"]
  | dateTime => ["DATETIME"]
  | timestamp => ["TIMESTAMP"]

theorem names_eq (type : ColumnType) : type.names = type.name :: type.aliases := by
  cases type <;> rfl

theorem mem_all (type : ColumnType) : type ∈ all := by
  cases type <;> decide

/-- No two types share a name. -/
theorem eq_of_mem_names {s t : ColumnType} {n : String} (hs : n ∈ s.names) (ht : n ∈ t.names) : s = t := by
  have hdisjoint : ∀ s ∈ all, ∀ t ∈ all, ∀ n ∈ s.names, n ∈ t.names → s = t := by decide +kernel
  exact hdisjoint s (mem_all s) t (mem_all t) n hs ht

/-- There are no blanks in a name. -/
theorem trimChars_of_mem_names {n : String} (h : n ∈ type.names) : trimChars n.toList = n.toList := by
  have hall : ∀ t ∈ all, ∀ n ∈ t.names, n.toList.all (fun c => !Text.isBlank c) = true := by decide +kernel
  have hno : ∀ c ∈ n.toList, Text.isBlank c = false := fun c hc => by
    simpa using List.all_eq_true.mp (hall type (mem_all type) n h) c hc
  exact (Text.trimmed_of_no_blank hno).trimChars_eq

theorem normalize_eq_iff_baseName (h : type ≠ string) : normalize raw = type ↔ baseName raw ∈ type.names := by
  have htest : ∀ t : ColumnType, (t.name == baseName raw || t.aliases.contains (baseName raw)) = true ↔
      baseName raw ∈ t.names := by
    intro t
    rw [names_eq, List.mem_cons, Bool.or_eq_true, beq_iff_eq, List.contains_iff_mem, eq_comm]
  unfold normalize
  cases hfind : all.find? fun t => t.name == baseName raw || t.aliases.contains (baseName raw) with
  | none =>
    have hno := List.find?_eq_none.mp hfind type (mem_all type)
    rw [htest] at hno
    exact ⟨fun heq => absurd heq.symm h, fun hmem => absurd hmem hno⟩
  | some t =>
    have hpass := List.find?_some hfind
    have ht := (htest t).mp hpass
    exact ⟨fun heq => (show t = type from heq) ▸ ht, fun hmem => eq_of_mem_names ht hmem⟩

/-- The spelling has one of the type's names, in any case and between blanks. -/
def Spells (type : ColumnType) (raw : String) : Prop :=
  ∃ before name after detail, Written raw before name after detail ∧ String.ofList (name.map Char.toUpper) ∈ type.names

theorem spells_iff : Spells type raw ↔ baseName raw ∈ type.names := by
  constructor
  · rintro ⟨before, name, after, detail, hwritten, hmem⟩
    have htrim := trimChars_of_mem_names hmem
    rw [String.toList_ofList] at htrim
    rwa [baseName_of_written hwritten, htrim]
  · intro hmem
    obtain ⟨before, after, detail, hwritten⟩ := written_trimmed raw
    exact ⟨before, _, after, detail, hwritten, hmem⟩

/-! ### Arrays -/

/-- What starts as an array type has a name that no type has. -/
theorem baseName_of_isArray (h : ColumnMode.isArray raw = true) : baseName raw = "ARRAY" := by
  obtain ⟨front, hfront, hraw⟩ := Text.exists_blanks_trimStartChars raw.toList
  obtain ⟨rest, hrest⟩ := List.isPrefixOf_iff_prefix.mp h
  obtain ⟨start, behind, hstart, hcapitals, -⟩ := List.map_eq_append_iff.mp hrest.symm
  have hsplit : "ARRAY<".toList = "ARRAY".toList ++ ['<'] := by simp
  obtain ⟨name, bracket, rfl, hname, hbracket⟩ := List.map_eq_append_iff.mp (hcapitals.trans hsplit)
  obtain ⟨c, rfl, hc⟩ := List.map_eq_singleton_iff.mp hbracket
  have hletters : "ARRAY".toList.all (fun u => !opensDetail u) = true := by decide
  have hwritten : Written raw front name [] (c :: behind) := by
    refine ⟨?_, hfront, Text.blanks_nil, fun d hd => ?_, ?_⟩
    · rw [hraw, hstart]
      simp
    · rw [← opensDetail_toUpper]
      simpa using List.all_eq_true.mp hletters _ (hname ▸ List.mem_map_of_mem hd)
    · rintro d ⟨⟩
      rw [← opensDetail_toUpper, hc]
      rfl
  rw [baseName_of_written hwritten, hname]
  decide

theorem normalize_of_isArray (h : ColumnMode.isArray raw = true) : normalize raw = string := by
  by_contra hother
  have hmem := (normalize_eq_iff_baseName hother).mp rfl
  rw [baseName_of_isArray h] at hmem
  have hno : ∀ t ∈ all, "ARRAY" ∉ t.names := by decide +kernel
  exact hno _ (mem_all _) hmem

/-- The type depends on the name in the spelling and on nothing else: not on the case of its letters, on blanks around it
or on what stands behind it. It is another type than text exactly where the name is one of that type. A column whose mode
is that of an array is text. -/
theorem normalize_reads_name (raw : String) :
    (∀ other, Respelled raw other → normalize other = normalize raw) ∧
      (∀ type, type ≠ string → (normalize raw = type ↔ Spells type raw)) ∧
        ∀ isNullable, ColumnMode.ofCatalog raw isNullable = .repeated → normalize raw = string := by
  refine ⟨fun other h => ?_, fun type h => ?_, fun isNullable h => ?_⟩
  · rw [normalize, normalize, h.baseName_eq]
  · rw [normalize_eq_iff_baseName h, spells_iff]
  · refine normalize_of_isArray ?_
    unfold ColumnMode.ofCatalog at h
    split at h
    · next harray => exact harray
    · split at h <;> cases h

/-- Another name of the integers, between blanks and with a length, and an array of them. -/
theorem normalize_reads_name_of_alias :
    normalize " bigint (10)" = int64 ∧ normalize " bigint (10)" = normalize "BigInt" ∧
      normalize " array<INT64>" = string := by
  have hwritten : Written " bigint (10)" [' '] "bigint".toList [' '] "(10)".toList :=
    ⟨by decide, List.forall_mem_singleton.mpr rfl, List.forall_mem_singleton.mpr rfl, by simp [opensDetail],
      by simp [opensDetail]⟩
  have hlower : (frontOf "BigInt").map Char.toLower = "bigint".toList := by decide
  have hcase : InOtherCase (frontOf "BigInt") "bigint".toList := hlower ▸ Text.inOtherCase_map_toLower _
  obtain ⟨-, htype, -⟩ := normalize_reads_name " bigint (10)"
  obtain ⟨hother, -, -⟩ := normalize_reads_name "BigInt"
  obtain ⟨-, -, harray⟩ := normalize_reads_name " array<INT64>"
  exact ⟨(htype int64 (by decide)).mpr ⟨_, _, _, _, hwritten, by decide⟩, hother _ ⟨_, _, _, _, hcase, hwritten⟩,
    harray "YES" (by decide)⟩

end ColumnType

end Audience
