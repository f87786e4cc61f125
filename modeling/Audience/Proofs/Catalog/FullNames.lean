import Audience.Proofs.Catalog.Lookup
import Audience.Proofs.Number.Numeral
import Audience.Proofs.Text.Lowering
import Audience.Proofs.Warehouse.BaseTable

/-!
Full names as they stand in statements. A name cannot be bound as a parameter, so a reference is checked before its text is
put between quotes. What passes is three identifiers (`valid_iff_identifiers`), and no identifier has a dot or a quote in it:
the joined text can be cut into three parts in one way (`splitOn_qualified`), and a quote in front of it is closed by the one
behind it, whatever else the statement is built from (`quotedName?_base`, `quotedName?_companion`). What does not pass is
turned down by the first part that is no identifier (`firstInvalid?_eq_some_iff`).
-/

namespace Audience

namespace TableRef

variable {admitted : Char → Bool} {inside : Char → Prop} {s part : String} {t u : TableRef} {c : Char}

/-! ### Identifiers -/

/-- A letter from A to Z in either case. -/
def Letter (c : Char) : Prop := ('A' ≤ c ∧ c ≤ 'Z') ∨ ('a' ≤ c ∧ c ≤ 'z')

/-- A character in the name of a dataset or a table. -/
def NameChar (c : Char) : Prop := Letter c ∨ ('0' ≤ c ∧ c ≤ '9') ∨ c = '_'

/-- A character in the name of a project. -/
def ProjectChar (c : Char) : Prop := NameChar c ∨ c = '-'

/-- A character in a full name. -/
def FullNameChar (c : Char) : Prop := NameChar c ∨ c = '.' ∨ c = '-'

/-- The text starts with a letter or an underscore, and all its characters are of one class. -/
structure Identifier (inside : Char → Prop) (s : String) : Prop where
  start : ∃ c, s.toList.head? = some c ∧ (Letter c ∨ c = '_')
  chars : ∀ c ∈ s.toList, inside c

theorem isAlpha_iff_letter : c.isAlpha = true ↔ Letter c := by
  simp only [Char.isAlpha, Char.isUpper, Char.isLower, Letter, Bool.or_eq_true, Bool.and_eq_true, decide_eq_true_eq,
    Char.le_def]

theorem isDigit_iff_bounds : c.isDigit = true ↔ '0' ≤ c ∧ c ≤ '9' := by
  simp only [Char.isDigit, Bool.and_eq_true, decide_eq_true_eq, Char.le_def]

theorem startsIdentifier_iff : startsIdentifier c = true ↔ Letter c ∨ c = '_' := by
  simp [startsIdentifier, isAlpha_iff_letter]

theorem inIdentifier_iff : inIdentifier c = true ↔ NameChar c := by
  simp [inIdentifier, NameChar, Char.isAlphanum, isAlpha_iff_letter, isDigit_iff_bounds, or_assoc]

theorem inProject_iff : inProject c = true ↔ ProjectChar c := by
  simp [inProject, ProjectChar, inIdentifier_iff]

theorem isIdentifier_iff (hadmitted : ∀ c, admitted c = true ↔ inside c) (hinside : ∀ c, NameChar c → inside c) :
    isIdentifier admitted s = true ↔ Identifier inside s := by
  unfold isIdentifier
  cases hchars : s.toList with
  | nil =>
    simp only [Bool.false_eq_true, false_iff]
    rintro ⟨⟨c, hc, -⟩, -⟩
    rw [hchars] at hc
    cases hc
  | cons c cs =>
    simp only [Bool.and_eq_true, startsIdentifier_iff, List.all_eq_true, hadmitted]
    constructor
    · rintro ⟨hstart, hrest⟩
      refine ⟨⟨c, by rw [hchars]; rfl, hstart⟩, fun d hd => ?_⟩
      rw [hchars] at hd
      rcases List.mem_cons.mp hd with rfl | hd
      · exact hinside d (hstart.imp id .inr)
      · exact hrest d hd
    · rintro ⟨⟨d, hd, hstart⟩, hall⟩
      rw [hchars] at hd hall
      obtain rfl := Option.some.inj hd
      exact ⟨hstart, fun d hd => hall d (List.mem_cons_of_mem _ hd)⟩

theorem isIdentifier_inProject_iff : isIdentifier inProject s = true ↔ Identifier ProjectChar s :=
  isIdentifier_iff (fun _ => inProject_iff) fun _ => .inl

theorem isIdentifier_inIdentifier_iff : isIdentifier inIdentifier s = true ↔ Identifier NameChar s :=
  isIdentifier_iff (fun _ => inIdentifier_iff) fun _ => id

theorem valid_iff_identifiers :
    t.Valid ↔ Identifier ProjectChar t.project ∧ Identifier NameChar t.dataset ∧ Identifier NameChar t.table := by
  rw [valid_iff, isIdentifier_inProject_iff, isIdentifier_inIdentifier_iff, isIdentifier_inIdentifier_iff]

/-! ### What is turned down -/

/-- The part is no identifier, and those in front of it are. -/
inductive FirstOffending (t : TableRef) : String → Prop
  | project (offends : ¬Identifier ProjectChar t.project) : FirstOffending t t.project
  | dataset (project : Identifier ProjectChar t.project) (offends : ¬Identifier NameChar t.dataset) :
      FirstOffending t t.dataset
  | table (project : Identifier ProjectChar t.project) (dataset : Identifier NameChar t.dataset)
      (offends : ¬Identifier NameChar t.table) : FirstOffending t t.table

theorem firstInvalid?_of_firstOffending (h : FirstOffending t part) : t.firstInvalid? = some part := by
  cases h with
  | project offends =>
    rw [← isIdentifier_inProject_iff] at offends
    simp [firstInvalid?, parts, offends]
  | dataset project offends =>
    rw [← isIdentifier_inProject_iff] at project
    rw [← isIdentifier_inIdentifier_iff] at offends
    simp [firstInvalid?, parts, project, offends]
  | table project dataset offends =>
    rw [← isIdentifier_inProject_iff] at project
    rw [← isIdentifier_inIdentifier_iff] at dataset offends
    simp [firstInvalid?, parts, project, dataset, offends]

theorem exists_firstOffending (h : ¬t.Valid) : ∃ part, FirstOffending t part := by
  rw [valid_iff_identifiers] at h
  by_cases hproject : Identifier ProjectChar t.project
  · by_cases hdataset : Identifier NameChar t.dataset
    · exact ⟨_, .table hproject hdataset fun htable => h ⟨hproject, hdataset, htable⟩⟩
    · exact ⟨_, .dataset hproject hdataset⟩
  · exact ⟨_, .project hproject⟩

theorem firstInvalid?_eq_some_iff : t.firstInvalid? = some part ↔ FirstOffending t part := by
  refine ⟨fun h => ?_, firstInvalid?_of_firstOffending⟩
  obtain ⟨first, hfirst⟩ := exists_firstOffending (t := t) fun hvalid => by
    rw [show t.firstInvalid? = none from hvalid] at h
    cases h
  obtain rfl := Option.some.inj ((firstInvalid?_of_firstOffending hfirst).symm.trans h)
  exact hfirst

/-- The text is empty, or it has somewhere a character that no full name has. -/
def Spoilt (s : String) : Prop := s = "" ∨ ∃ c ∈ s.toList, ¬FullNameChar c

theorem Identifier.not_spoilt (h : Identifier inside s) (hinside : ∀ c, inside c → FullNameChar c) : ¬Spoilt s := by
  rintro (rfl | ⟨c, hc, hother⟩)
  · obtain ⟨c, hc, -⟩ := h.start
    cases hc
  · exact hother (hinside c (h.chars c hc))

theorem ProjectChar.fullNameChar (h : ProjectChar c) : FullNameChar c := h.imp id .inr

theorem Valid.not_spoilt (h : t.Valid) : ∀ part ∈ [t.project, t.dataset, t.table], ¬Spoilt part := by
  obtain ⟨hproject, hdataset, htable⟩ := valid_iff_identifiers.mp h
  simp only [List.forall_mem_cons, List.not_mem_nil, false_implies, implies_true, and_true]
  exact ⟨hproject.not_spoilt fun _ => ProjectChar.fullNameChar, hdataset.not_spoilt fun _ => .inl,
    htable.not_spoilt fun _ => .inl⟩

/-- The check fails with the first part that is no identifier, and so does a look-up, with nothing sent or kept. -/
structure TurnedDown (t : TableRef) (part : String) : Prop where
  first : FirstOffending t part
  named : t.firstInvalid? = some part
  lookedUp : ∀ (c : SchemaCache) (g : Gateway), c.get g t = (.error (.invalidIdentifier part), c, g)

theorem exists_turnedDown (h : ¬t.Valid) : ∃ part, TurnedDown t part := by
  obtain ⟨part, hfirst⟩ := exists_firstOffending h
  have hnamed := firstInvalid?_of_firstOffending hfirst
  exact ⟨part, hfirst, hnamed, fun c g => c.get_of_invalid g hnamed⟩

/-! ### Full names -/

theorem toList_qualified (t : TableRef) :
    t.qualified.toList = t.project.toList ++ '.' :: (t.dataset.toList ++ '.' :: t.table.toList) := by
  have hdot : ".".toList = ['.'] := rfl
  simp [qualified, hdot]

/-- The full name is cut at its dots into the three parts. -/
theorem splitOn_qualified (h : t.Valid) :
    t.qualified.toList.splitOn '.' = [t.project.toList, t.dataset.toList, t.table.toList] := by
  obtain ⟨⟨hproject, -⟩, ⟨hdataset, -⟩, ⟨htable, -⟩⟩ := h.bare
  rw [toList_qualified, List.splitOn_append_cons_self, List.splitOn_append_cons_self, List.splitOn_eq_singleton hproject,
    List.splitOn_eq_singleton hdataset, List.splitOn_eq_singleton htable]
  rfl

theorem eq_of_qualified_eq (ht : t.Valid) (hu : u.Valid) (h : t.qualified = u.qualified) : t = u := by
  have hparts := splitOn_qualified hu
  rw [← h, splitOn_qualified ht] at hparts
  obtain ⟨project, dataset, table⟩ := t
  obtain ⟨project', dataset', table'⟩ := u
  obtain ⟨rfl, rfl, rfl⟩ : project = project' ∧ dataset = dataset' ∧ table = table' := by
    simpa [String.toList_inj] using hparts
  rfl

theorem fullNameChar_of_mem_qualified (h : t.Valid) (hc : c ∈ t.qualified.toList) : FullNameChar c := by
  obtain ⟨hproject, hdataset, htable⟩ := valid_iff_identifiers.mp h
  rw [toList_qualified] at hc
  simp only [List.mem_append, List.mem_cons] at hc
  rcases hc with hc | rfl | hc | rfl | hc
  · exact (hproject.chars c hc).fullNameChar
  · exact .inr (.inl rfl)
  · exact .inl (hdataset.chars c hc)
  · exact .inr (.inl rfl)
  · exact .inl (htable.chars c hc)

theorem FullNameChar.not_isBlank (h : FullNameChar c) : Text.isBlank c = false := by
  rcases h with (hletter | hdigit | rfl) | rfl | rfl
  · by_contra hblank
    have hno := Text.isAlpha_of_isBlank (Bool.eq_true_of_not_eq_false hblank)
    rw [isAlpha_iff_letter.mpr hletter] at hno
    cases hno
  · exact Text.isBlank_of_isDigit (isDigit_iff_bounds.mpr hdigit)
  · rfl
  · rfl
  · rfl

theorem FullNameChar.ne_quote (h : FullNameChar c) : c ≠ '`' ∧ c ≠ '"' ∧ c ≠ '\'' := by
  refine ⟨?_, ?_, ?_⟩ <;> rintro rfl <;> simp [FullNameChar, NameChar, Letter] at h

/-- The text of a full name, with two dots and nothing in it that could end a name. -/
structure SingleName (t : TableRef) : Prop where
  dots : t.qualified.toList.count '.' = 2
  chars : ∀ c ∈ t.qualified.toList, FullNameChar c
  noQuote : ∀ c ∈ t.qualified.toList, c ≠ '`' ∧ c ≠ '"' ∧ c ≠ '\''
  noBlank : ∀ c ∈ t.qualified.toList, Text.isBlank c = false

theorem Valid.singleName (h : t.Valid) : SingleName t where
  dots := by
    obtain ⟨⟨hproject, -⟩, ⟨hdataset, -⟩, ⟨htable, -⟩⟩ := h.bare
    simp [toList_qualified, List.count_eq_zero_of_not_mem, hproject, hdataset, htable]
  chars _ hc := fullNameChar_of_mem_qualified h hc
  noQuote _ hc := (fullNameChar_of_mem_qualified h hc).ne_quote
  noBlank _ hc := (fullNameChar_of_mem_qualified h hc).not_isBlank

theorem Valid.quote_not_mem (h : t.Valid) : '`' ∉ t.qualified.toList := fun hmem => (h.singleName.noQuote _ hmem).1 rfl

end TableRef

/-! ### Names between quotes -/

theorem Text.length_splitOn (c : Char) (cs : List Char) : (cs.splitOn c).length = cs.count c + 1 := by
  induction cs with
  | nil => rfl
  | cons d cs ih =>
    rw [List.splitOn_cons_eq_if_modifyHead, List.count_cons]
    split
    · rw [List.length_cons, ih]
    · rw [List.length_modifyHead, ih, Nat.add_zero]

/-- How many quotes the text has. -/
def quotes (s : String) : Nat := s.toList.count '`'

theorem quotes_append (s t : String) : quotes (s ++ t) = quotes s + quotes t := by
  simp [quotes]

/-- The name between the quote that has `n` others in front of it and the next one, cut at its dots. -/
def quotedName? (sql : String) (n : Nat) : Option (List String) :=
  match (sql.toList.splitOn '`').drop (n + 1) with
  | name :: _ :: _ => some ((name.splitOn '.').map String.ofList)
  | _ => none

variable {sql : String} {t : TableRef} {before name after : List Char}

theorem quotedName?_append (hname : '`' ∉ name) (hsql : sql.toList = before ++ '`' :: (name ++ '`' :: after)) :
    quotedName? sql (before.count '`') = some ((name.splitOn '.').map String.ofList) := by
  obtain ⟨piece, rest, hafter⟩ := List.exists_cons_of_ne_nil (List.splitOn_ne_nil '`' after)
  -- The pieces in front of the name are one more than the quotes in front of the one that opens it.
  have hpieces : (sql.toList.splitOn '`').drop (before.count '`' + 1) = name :: piece :: rest := by
    rw [hsql, List.splitOn_append_cons_self, List.splitOn_append_cons_self, List.splitOn_eq_singleton hname, hafter,
      ← Text.length_splitOn, List.drop_left]
    rfl
  rw [quotedName?, hpieces]

/-- The quote behind a full name is the one that closes it. -/
theorem quotedName?_qualified (h : t.Valid) (hsql : sql.toList = before ++ '`' :: (t.qualified.toList ++ '`' :: after)) :
    quotedName? sql (before.count '`') = some [t.project, t.dataset, t.table] := by
  rw [quotedName?_append h.quote_not_mem hsql, TableRef.splitOn_qualified h]
  simp

namespace QueryTemplates

variable (templates : QueryTemplates) (t : TableRef) (whereText : String) (campaign : CampaignKind) (mode : SendMode)

/-- The companion that a table is joined with. -/
def companionRef : TableRef := { t with table := templates.companion campaign mode }

theorem quotedName?_base (h : t.Valid) :
    quotedName? (templates.sql t whereText campaign mode) 0 = some [t.project, t.dataset, t.table] := by
  obtain ⟨rest, hrest⟩ := templates.toList_sql t whereText campaign mode
  have hfront : front = front.dropLast ++ ['`'] := by decide
  have hcount : front.dropLast.count '`' = 0 := by decide
  have hsql : (templates.sql t whereText campaign mode).toList =
      front.dropLast ++ '`' :: (t.qualified.toList ++ '`' :: rest) := by
    rw [hrest, beforeBase, hfront, TableRef.toList_qualified]
    simp
  rw [← hcount, quotedName?_qualified h hsql]

/-- In front of the companion stand the two quotes around the base table and those of the texts that the statement is built
from. -/
theorem sql_eq_companion : ∃ before,
    templates.sql t whereText campaign mode =
      before ++ " `" ++ (templates.companionRef t campaign mode).qualified ++ "` AS c ON f." ++ templates.dedupColumn ++
        " = c." ++ templates.dedupColumn ++ "\n" ++ ")\n" ++ "SELECT * EXCEPT(rn) FROM unido WHERE rn = 1" ∧
      quotes before = 2 + quotes t.qualified + quotes whereText + 2 * quotes templates.dedupColumn +
        quotes templates.tiebreakColumn := by
  have hjoin : quotes (join campaign) = 0 := by cases campaign <;> simp [join, quotes]
  refine ⟨_, rfl, ?_⟩
  simp only [quotes_append, hjoin]
  -- Of the fixed texts only the two around the base table have a quote.
  simp +arith only [quotes, String.reduceToList, List.count_cons, List.count_nil, Char.reduceBEq, Bool.false_eq_true,
    if_false, if_true]

theorem quotedName?_companion (h : t.Valid) (hcompanion : (templates.companionRef t campaign mode).Valid) :
    quotedName? (templates.sql t whereText campaign mode)
        (2 + quotes whereText + 2 * quotes templates.dedupColumn + quotes templates.tiebreakColumn) =
      some [t.project, t.dataset, templates.companion campaign mode] := by
  obtain ⟨before, hsql, hquotes⟩ := templates.sql_eq_companion t whereText campaign mode
  have hbase : quotes t.qualified = 0 := List.count_eq_zero_of_not_mem h.quote_not_mem
  have hopen : " `".toList = [' ', '`'] := rfl
  have hclose : "` AS c ON f.".toList = '`' :: " AS c ON f.".toList := by decide
  obtain ⟨after, hchars⟩ : ∃ after, (templates.sql t whereText campaign mode).toList = (before.toList ++ [' ']) ++
      '`' :: ((templates.companionRef t campaign mode).qualified.toList ++ '`' :: after) := by
    rw [hsql]
    simp only [String.toList_append, hopen, hclose, List.append_assoc, List.cons_append, List.nil_append]
    exact ⟨_, rfl⟩
  have hcount : (before.toList ++ [' ']).count '`' =
      2 + quotes whereText + 2 * quotes templates.dedupColumn + quotes templates.tiebreakColumn := by
    rw [List.count_append, show before.toList.count '`' = _ from hquotes, hbase]
    rfl
  rw [← hcount, quotedName?_qualified hcompanion hchars]
  rfl

/-- The first two quotes of the statement stand around the name of the base table. Behind them and behind the quotes of the
`WHERE` text and the columns, two stand around the name of the companion. -/
structure QuotesNames : Prop where
  base : quotedName? (templates.sql t whereText campaign mode) 0 = some [t.project, t.dataset, t.table]
  companion : (templates.companionRef t campaign mode).Valid →
    quotedName? (templates.sql t whereText campaign mode)
        (2 + quotes whereText + 2 * quotes templates.dedupColumn + quotes templates.tiebreakColumn) =
      some [t.project, t.dataset, templates.companion campaign mode]

end QueryTemplates

namespace TableRef

/-- No two tables that pass the check have one full name. A full name has no character that could end it, so it is one name
of three parts wherever a statement has it between quotes. The check fails with the first part that is no identifier and for
no other reason; so it fails for a part that is empty or has another character anywhere. -/
theorem qualified_names_one_table (t : TableRef) :
    (t.Valid →
        (∀ u : TableRef, u.Valid → t.qualified = u.qualified → t = u) ∧ SingleName t ∧
          ∀ (templates : QueryTemplates) (whereText : String) (campaign : CampaignKind) (mode : SendMode),
            templates.QuotesNames t whereText campaign mode) ∧
      (∀ part, t.firstInvalid? = some part ↔ FirstOffending t part) ∧
        ((∃ part ∈ [t.project, t.dataset, t.table], Spoilt part) → ∃ part, TurnedDown t part) := by
  refine ⟨fun hvalid => ⟨fun u hu => eq_of_qualified_eq hvalid hu, hvalid.singleName, ?_⟩, fun part => ?_, ?_⟩
  · intro templates whereText campaign mode
    exact ⟨templates.quotedName?_base t whereText campaign mode hvalid,
      templates.quotedName?_companion t whereText campaign mode hvalid⟩
  · exact firstInvalid?_eq_some_iff
  · rintro ⟨part, hpart, hspoilt⟩
    exact exists_turnedDown fun hvalid => hvalid.not_spoilt part hpart hspoilt

example : (⟨"mi-proyecto", "campanas", "clientes_2024"⟩ : TableRef).Valid ∧
    (⟨"mi-proyecto", "campanas", "clientes\n"⟩ : TableRef).firstInvalid? = some "clientes\n" ∧
    (⟨"p", "d-d", "a.b"⟩ : TableRef).firstInvalid? = some "d-d" := by
  decide

end TableRef

end Audience
