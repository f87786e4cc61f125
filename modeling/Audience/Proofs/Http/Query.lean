import Audience.Http.Url
import Audience.Proofs.Text.Cutting
import Audience.Proofs.Text.Utf8

/-!
What is put into a query is read out of it. A text is written so that no character of it ends a name, a pair or the query,
and it reads back as itself (`queryText_formText`). So pairs that are put behind a query are the last ones that are read
in it (`queryPairs_extended`).
-/

namespace Audience.Http

open Text (upperHexDigit utf8Bytes)
open Url (formText formQuery percentByte percentChar isFormChar extended)

variable {c d : Char} {cs query : List Char} {s : String} {b : UInt8} {rest bytes : List UInt8}
  {pairs : List (String × String)}

/-! ### Bytes -/

theorem isFormChar_upperHexDigit (n : Nat) : isFormChar (upperHexDigit n) = true := by
  have all : ∀ d : Fin 16, isFormChar (Nat.digitChar d.val).toUpper = true := by decide
  exact all ⟨n % 16, Nat.mod_lt n (by decide)⟩

theorem toNat_lt_of_isFormChar (h : isFormChar c = true) : c.toNat < 0x80 := by
  have hle : ∀ d : Char, c.val ≤ d.val → d.toNat < 0x80 → c.toNat < 0x80 := fun d hle =>
    Nat.lt_of_le_of_lt (UInt32.le_iff_toNat_le.mp hle)
  rcases Bool.or_eq_true_iff.mp h with hletter | hmark
  · rcases Bool.or_eq_true_iff.mp hletter with halpha | hdigit
    · rcases Bool.or_eq_true_iff.mp halpha with hupper | hlower
      · exact hle 'Z' (of_decide_eq_true hupper).2 (by decide)
      · exact hle 'z' (of_decide_eq_true (Bool.and_eq_true_iff.mp hlower).2) (by decide)
    · exact hle '9' (of_decide_eq_true (Bool.and_eq_true_iff.mp hdigit).2) (by decide)
  · simp only [List.contains_iff_mem, List.mem_cons, List.not_mem_nil, or_false] at hmark
    rcases hmark with rfl | rfl | rfl | rfl
    all_goals decide

theorem mem_percentByte (h : d ∈ percentByte b) : d = '%' ∨ isFormChar d = true := by
  simp only [percentByte, List.mem_cons, List.not_mem_nil, or_false] at h
  rcases h with rfl | rfl | rfl
  · exact .inl rfl
  · exact .inr (isFormChar_upperHexDigit _)
  · exact .inr (isFormChar_upperHexDigit _)

theorem hexByte?_upperHexDigit (b : UInt8) :
    hexByte? (UInt8.ofNat (upperHexDigit (b.toNat / 16)).toNat) (UInt8.ofNat (upperHexDigit b.toNat).toNat) = some b := by
  have hchar : ∀ n, Char.ofNat (UInt8.ofNat (upperHexDigit n).toNat).toNat = upperHexDigit n := by
    intro n
    have hlt := toNat_lt_of_isFormChar (isFormChar_upperHexDigit n)
    rw [UInt8.toNat_ofNat_of_lt' (Nat.lt_trans hlt (by decide)), Char.ofNat_toNat]
  have hsum : b.toNat / 16 % 16 * 16 + b.toNat % 16 = b.toNat := by
    have hlt := b.toNat_lt
    omega
  simp only [hexByte?, hchar, Text.hexValue?_upperHexDigit]
  show some (UInt8.ofNat (b.toNat / 16 % 16 * 16 + b.toNat % 16)) = some b
  rw [hsum, UInt8.ofNat_toNat]

theorem percentDecoded_cons (h : b ≠ 0x25) : percentDecoded (b :: rest) = b :: percentDecoded rest := by
  rw [percentDecoded]
  rintro high low more rfl
  exact absurd rfl h

theorem percentDecoded_percentByte (b : UInt8) (rest : List UInt8) :
    percentDecoded ((percentByte b).flatMap String.utf8EncodeChar ++ rest) = b :: percentDecoded rest := by
  have hhigh := Text.utf8EncodeChar_of_ascii (toNat_lt_of_isFormChar (isFormChar_upperHexDigit (b.toNat / 16)))
  have hlow := Text.utf8EncodeChar_of_ascii (toNat_lt_of_isFormChar (isFormChar_upperHexDigit b.toNat))
  simp only [percentByte, List.flatMap_cons, hhigh, hlow, List.flatMap_nil, List.append_nil]
  show percentDecoded (0x25 :: _ :: _ :: rest) = b :: percentDecoded rest
  rw [percentDecoded, hexByte?_upperHexDigit]

theorem percentDecoded_percentBytes (bytes rest : List UInt8) :
    percentDecoded ((bytes.flatMap percentByte).flatMap String.utf8EncodeChar ++ rest) = bytes ++ percentDecoded rest := by
  induction bytes with
  | nil => rfl
  | cons b bytes ih =>
    rw [List.flatMap_cons, List.flatMap_append, List.append_assoc, percentDecoded_percentByte, ih, List.cons_append]

/-! ### Texts -/

/-- One character of a text in a query. -/
def formChar (c : Char) : List Char := if c = ' ' then ['+'] else if isFormChar c then [c] else percentChar c

/-- A plus sign in a query is a space. -/
def unplussed (c : Char) : Char := if c = '+' then ' ' else c

theorem percentChar_eq (c : Char) : percentChar c = (String.utf8EncodeChar c).flatMap percentByte := by
  rw [percentChar, String.singleton_eq_ofList, Text.utf8Bytes_ofList, List.flatMap_singleton]

theorem mem_percentChar (h : d ∈ percentChar c) : d = '%' ∨ isFormChar d = true := by
  rw [percentChar_eq] at h
  obtain ⟨b, -, hd⟩ := List.mem_flatMap.mp h
  exact mem_percentByte hd

/-- A character that a text in a query is never written with. -/
def Unwritten (d : Char) : Prop := d ≠ '+' ∧ d ≠ '%' ∧ isFormChar d = false

instance (d : Char) : Decidable (Unwritten d) := inferInstanceAs (Decidable (_ ∧ _))

theorem not_mem_formText (h : Unwritten d) : d ∉ formText s := by
  obtain ⟨hplus, hpercent, hform⟩ := h
  intro hd
  obtain ⟨c, -, hd⟩ := List.mem_flatMap.mp hd
  split at hd
  · exact hplus (List.mem_singleton.mp hd)
  · split at hd
    · next hc =>
      obtain rfl := List.mem_singleton.mp hd
      rw [hform] at hc
      cases hc
    · rcases mem_percentChar hd with heq | hc
      · exact hpercent heq
      · rw [hform] at hc
        cases hc

theorem map_unplussed (h : ∀ d ∈ cs, d ≠ '+') : cs.map unplussed = cs := by
  have hself : cs.map unplussed = cs.map id := List.map_congr_left fun d hd => if_neg (h d hd)
  rw [hself, List.map_id]

theorem percentDecoded_formChar (c : Char) (rest : List UInt8) :
    percentDecoded (((formChar c).map unplussed).flatMap String.utf8EncodeChar ++ rest) =
      String.utf8EncodeChar c ++ percentDecoded rest := by
  unfold formChar
  split
  · next hc =>
    subst hc
    exact percentDecoded_cons (by decide)
  · split
    · next hc =>
      have hplus : c ≠ '+' := by
        rintro rfl
        cases hc
      have hpercent : UInt8.ofNat c.toNat ≠ 0x25 := by
        intro heq
        have hvalue : (UInt8.ofNat c.toNat).toNat = '%'.toNat := congrArg UInt8.toNat heq
        rw [UInt8.toNat_ofNat_of_lt' (Nat.lt_trans (toNat_lt_of_isFormChar hc) (by decide))] at hvalue
        obtain rfl := Char.toNat_inj.mp hvalue
        cases hc
      rw [map_unplussed (List.forall_mem_singleton.mpr hplus), List.flatMap_singleton,
        Text.utf8EncodeChar_of_ascii (toNat_lt_of_isFormChar hc)]
      exact percentDecoded_cons hpercent
    · have hplus : ∀ d ∈ percentChar c, d ≠ '+' := by
        rintro d hd rfl
        rcases mem_percentChar hd with heq | hform
        · cases heq
        · cases hform
      rw [map_unplussed hplus, percentChar_eq, percentDecoded_percentBytes]

/-- What is written for a text reads back as the text. -/
theorem queryText_formText (s : String) : queryText (formText s) = s := by
  have hdecoded : ∀ cs : List Char,
      percentDecoded (((cs.flatMap formChar).map unplussed).flatMap String.utf8EncodeChar) =
        cs.flatMap String.utf8EncodeChar := by
    intro cs
    -- What stands for one character is decoded to its bytes whatever follows, so the characters go one by one.
    induction cs with
    | nil => rfl
    | cons c cs ih =>
      rw [List.flatMap_cons, List.map_append, List.flatMap_append, percentDecoded_formChar, ih, List.flatMap_cons]
  show Text.ofUtf8Lenient (percentDecoded (utf8Bytes (String.ofList ((s.toList.flatMap formChar).map unplussed)))) = s
  rw [Text.utf8Bytes_ofList, hdecoded, Text.ofUtf8Lenient_chars, String.ofList_toList]

/-! ### Pairs -/

/-- One pair as it is written. -/
def formPair (p : String × String) : List Char := formText p.1 ++ '=' :: formText p.2

theorem not_mem_formPair {p : String × String} (h : Unwritten d) (hequals : d ≠ '=') : d ∉ formPair p := by
  intro hd
  rcases List.mem_append.mp hd with hname | hvalue
  · exact not_mem_formText h hname
  · rcases List.mem_cons.mp hvalue with heq | hvalue
    · exact hequals heq
    · exact not_mem_formText h hvalue

theorem formQuery_cons_cons (p q : String × String) (rest : List (String × String)) :
    formQuery (p :: q :: rest) = formPair p ++ ['&'] ++ formQuery (q :: rest) := List.intercalate_cons_cons

theorem not_mem_formQuery (h : Unwritten d) (hequals : d ≠ '=') (hampersand : d ≠ '&') : d ∉ formQuery pairs := by
  induction pairs with
  | nil => exact List.not_mem_nil
  | cons p rest ih =>
    cases rest with
    | nil =>
      rw [formQuery, List.map_singleton, List.intercalate_singleton]
      exact not_mem_formPair h hequals
    | cons q rest =>
      intro hd
      rw [formQuery_cons_cons] at hd
      rcases List.mem_append.mp hd with hd | hd
      · rcases List.mem_append.mp hd with hd | hd
        · exact not_mem_formPair h hequals hd
        · exact hampersand (List.mem_singleton.mp hd)
      · exact ih hd

theorem queryPieces_formQuery (pairs : List (String × String)) : queryPieces (formQuery pairs) = pairs.map formPair := by
  cases hpairs : pairs with
  | nil => rfl
  | cons p rest =>
    rw [← hpairs]
    have hampersand : ∀ piece ∈ pairs.map formPair, '&' ∉ piece := by
      intro piece hpiece hmem
      obtain ⟨p, -, rfl⟩ := List.mem_map.mp hpiece
      exact not_mem_formPair (by decide) (by decide) hmem
    show ((['&'].intercalate (pairs.map formPair)).splitOn '&').filter (· ≠ []) = pairs.map formPair
    rw [List.splitOn_intercalate '&' hampersand (by simp [hpairs]), List.filter_eq_self]
    intro piece hpiece
    obtain ⟨p, -, rfl⟩ := List.mem_map.mp hpiece
    simp [formPair]

theorem splitOnce_formPair (p : String × String) :
    Text.splitOnce ['='] (formPair p) = some (formText p.1, formText p.2) :=
  Text.splitOnce_singleton_eq_some_iff.mpr ⟨rfl, not_mem_formText (by decide)⟩

theorem queryPairs_eq (h : queryPieces cs = queryPieces query ++ pairs.map formPair) :
    queryPairs (String.ofList cs) = queryPairs (String.ofList query) ++ pairs := by
  simp only [queryPairs, String.toList_ofList, h, List.map_append, List.map_map]
  refine congrArg _ ((List.map_congr_left fun p _ => ?_).trans (List.map_id' pairs))
  simp only [Function.comp, splitOnce_formPair, queryText_formText]

/-- Pairs that are put behind a query are the last ones in it. -/
theorem queryPairs_extended (query : List Char) (pairs : List (String × String)) :
    queryPairs (String.ofList (extended query pairs)) = queryPairs (String.ofList query) ++ pairs := by
  refine queryPairs_eq ?_
  unfold extended
  split
  · next hquery =>
    subst hquery
    exact queryPieces_formQuery pairs
  · split
    · next hpairs =>
      subst hpairs
      exact (List.append_nil _).symm
    · rw [queryPieces, List.splitOn_append_cons_self, List.filter_append, ← queryPieces, ← queryPieces,
        queryPieces_formQuery]

end Audience.Http
