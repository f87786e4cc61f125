import Audience.Json.Parser
import Audience.Json.Printer
import Audience.Proofs.Number.Text

/-!
A written value can be told from what stands behind it (`Json.separated`), so no two values are written alike
(`Json.written_injective`). The first character gives the kind of the value. A string ends at its first quote that is
not escaped, an array and an object at their own bracket; only a number needs something behind it that does not
continue it.
-/

namespace Audience.Json

open Reading (Stops)

variable {rest rest' : List Char}

/-! ### Strings -/

theorem hex4?_hexDigit {n : ℕ} (h : n < 0x20) :
    hex4? '0' '0' (Text.hexDigit (n / 16)) (Text.hexDigit n) = some n := by
  have hzero : Text.hexValue? '0' = some 0 := rfl
  have hmod : n / 16 % 16 * 16 + n % 16 = n := by omega
  simp [hex4?, hzero, Text.hexValue?_hexDigit, hmod]

/-- A character reads back from its escape, or from itself when it has none. -/
theorem stringRest_escapeChar (acc : List Char) (c : Char) (rest : List Char) :
    stringRest acc (escapeChar c ++ rest) = stringRest (c :: acc) rest := by
  unfold escapeChar
  split
  · rfl
  · rfl
  · rfl
  · rfl
  · rfl
  · rfl
  · rfl
  · next hquote hslash _ _ _ _ _ =>
    split
    · next hcontrol =>
      have hrange : ¬(0xD800 ≤ c.toNat ∧ c.toNat < 0xDC00) ∧ ¬(0xDC00 ≤ c.toNat ∧ c.toNat < 0xE000) := by omega
      simp only [List.cons_append, List.nil_append, stringRest, hex4?_hexDigit hcontrol, if_neg hrange.1,
        if_neg hrange.2, Char.ofNat_toNat]
    · next hcontrol =>
      rw [List.singleton_append, stringRest, if_neg hcontrol]
      · exact hquote
      · intro _ _ _ _ _ heq
        exact absurd heq hslash
      · intro _ _ heq
        exact absurd heq hslash

theorem stringRest_escaped (cs acc rest : List Char) :
    stringRest acc (cs.flatMap escapeChar ++ '"' :: rest) = some (acc.reverse ++ cs, rest) := by
  induction cs generalizing acc with
  | nil => simp [stringRest]
  | cons c cs ih =>
    rw [List.flatMap_cons, List.append_assoc, stringRest_escapeChar, ih, List.reverse_cons, List.append_assoc]
    rfl

theorem quoted_append (s : String) (rest : List Char) :
    quoted s ++ rest = '"' :: (s.toList.flatMap escapeChar ++ '"' :: rest) := by
  simp [quoted]

theorem quoted_append_inj {s t : String} (h : quoted s ++ rest = quoted t ++ rest') : s = t ∧ rest = rest' := by
  rw [quoted_append, quoted_append] at h
  have hread := stringRest_escaped s.toList [] rest
  rw [(List.cons.inj h).2, stringRest_escaped] at hread
  obtain ⟨hchars, hrest⟩ := Prod.mk.inj (Option.some.inj hread)
  exact ⟨(String.toList_inj.mp hchars).symm, hrest.symm⟩

/-! ### The first character -/

/-- The kinds of values that the first character tells apart. -/
inductive Kind where
  | null
  | bool
  | number
  | str
  | arr
  | obj

/-- The kind of a value. -/
def kind : Json → Kind
  | null => .null
  | bool _ => .bool
  | int _ => .number
  | float _ => .number
  | str _ => .str
  | arr _ => .arr
  | obj _ => .obj

/-- The kind of the values that start with a character. -/
def Kind.ofLead? (c : Char) : Option Kind :=
  if isNumeralChar c then some .number
  else
    match c with
    | 'n' => some .null
    | 't' => some .bool
    | 'f' => some .bool
    | '"' => some .str
    | '[' => some .arr
    | '{' => some .obj
    | _ => none

theorem written_lead (j : Json) : ∃ c cs, written j = c :: cs ∧ Kind.ofLead? c = some j.kind := by
  have hnumber : ∀ {cs : List Char}, cs ≠ [] → (∀ c ∈ cs, isNumeralChar c = true) →
      ∃ c cs', cs = c :: cs' ∧ Kind.ofLead? c = some .number := by
    intro cs hne hcs
    obtain ⟨c, cs', rfl⟩ := List.exists_cons_of_ne_nil hne
    exact ⟨c, cs', rfl, if_pos (hcs c List.mem_cons_self)⟩
  cases j with
  | null => exact ⟨'n', ['u', 'l', 'l'], rfl, rfl⟩
  | bool b =>
    cases b with
    | false => exact ⟨'f', ['a', 'l', 's', 'e'], rfl, rfl⟩
    | true => exact ⟨'t', ['r', 'u', 'e'], rfl, rfl⟩
  | int n => exact hnumber integerChars_ne_nil fun c => isNumeralChar_of_mem_integerChars
  | float x => exact hnumber x.jsonText_ne_nil x.isNumeralChar_of_mem_jsonText
  | str s => exact ⟨'"', _, rfl, rfl⟩
  | arr items =>
    cases items with
    | nil => exact ⟨'[', _, rfl, rfl⟩
    | cons j items => exact ⟨'[', _, rfl, rfl⟩
  | obj members =>
    cases members with
    | nil => exact ⟨'{', _, rfl, rfl⟩
    | cons m members => exact ⟨'{', _, rfl, rfl⟩

theorem kind_eq_of_append {j k : Json} (h : written j ++ rest = written k ++ rest') : j.kind = k.kind := by
  obtain ⟨c, cs, hj, hc⟩ := written_lead j
  obtain ⟨d, ds, hk, hd⟩ := written_lead k
  rw [hj, hk] at h
  rw [(List.cons.inj h).1, hd] at hc
  exact (Option.some.inj hc).symm

/-- No value starts with a closing bracket. -/
theorem written_append_ne {j : Json} {c : Char} (h : Kind.ofLead? c = none) : written j ++ rest ≠ c :: rest' := by
  obtain ⟨d, ds, hj, hd⟩ := written_lead j
  intro heq
  rw [hj] at heq
  rw [(List.cons.inj heq).1, h] at hd
  cases hd

/-! ### One case for each kind -/

/-- A text that starts with the value and goes on with nothing that continues a number starts with no other value. -/
def Separated (j : Json) : Prop :=
  ∀ {k : Json} {rest rest' : List Char}, Stops isNumeralChar rest → Stops isNumeralChar rest' →
    written j ++ rest = written k ++ rest' → j = k ∧ rest = rest'

theorem numeral_append_inj {cs ds : List Char} (hcs : ∀ c ∈ cs, isNumeralChar c = true)
    (hds : ∀ c ∈ ds, isNumeralChar c = true) (hrest : Stops isNumeralChar rest) (hrest' : Stops isNumeralChar rest')
    (h : cs ++ rest = ds ++ rest') : cs = ds ∧ rest = rest' := by
  have hspan := Reading.span_append hcs hrest
  rw [h, Reading.span_append hds hrest'] at hspan
  obtain ⟨hchars, hrest⟩ := Prod.mk.inj hspan
  exact ⟨hchars.symm, hrest.symm⟩

theorem separated_null : Separated .null := by
  intro k rest rest' _ _ h
  cases k with
  | null => exact ⟨rfl, List.append_cancel_left h⟩
  | _ => cases kind_eq_of_append h

theorem separated_bool (b : Bool) : Separated (.bool b) := by
  intro k rest rest' _ _ h
  cases k with
  | bool b' =>
    cases b <;> cases b'
    · exact ⟨rfl, List.append_cancel_left h⟩
    · cases (List.cons.inj h).1
    · cases (List.cons.inj h).1
    · exact ⟨rfl, List.append_cancel_left h⟩
  | _ => cases kind_eq_of_append h

theorem separated_int (n : Integer) : Separated (.int n) := by
  intro k rest rest' hrest hrest' h
  have hchars : ∀ n : Integer, ∀ c ∈ integerChars n.val, isNumeralChar c = true :=
    fun n c => isNumeralChar_of_mem_integerChars
  cases k with
  | int n' =>
    obtain ⟨hval, hend⟩ := numeral_append_inj (hchars n) (hchars n') hrest hrest' h
    obtain ⟨val, _⟩ := n
    obtain rfl : val = n'.val := integerChars_injective hval
    exact ⟨rfl, hend⟩
  | float x =>
    obtain ⟨hsame, -⟩ := numeral_append_inj (hchars n) x.isNumeralChar_of_mem_jsonText hrest hrest' h
    exact absurd hsame (integerChars_ne_jsonText _ _)
  | _ => cases kind_eq_of_append h

theorem separated_float (x : Binary64) : Separated (.float x) := by
  intro k rest rest' hrest hrest' h
  cases k with
  | int n =>
    obtain ⟨hsame, -⟩ := numeral_append_inj x.isNumeralChar_of_mem_jsonText
      (fun c => isNumeralChar_of_mem_integerChars) hrest hrest' h
    exact absurd hsame.symm (integerChars_ne_jsonText _ _)
  | float x' =>
    obtain ⟨htext, hend⟩ := numeral_append_inj x.isNumeralChar_of_mem_jsonText x'.isNumeralChar_of_mem_jsonText
      hrest hrest' h
    obtain rfl : x = x' := Binary64.jsonText_injective (String.toList_inj.mp htext)
    exact ⟨rfl, hend⟩
  | _ => cases kind_eq_of_append h

theorem separated_str (s : String) : Separated (.str s) := by
  intro k rest rest' _ _ h
  cases k with
  | str t =>
    obtain ⟨rfl, hend⟩ := quoted_append_inj h
    exact ⟨rfl, hend⟩
  | _ => cases kind_eq_of_append h

theorem stops_writtenItems (items : List Json) (rest : List Char) :
    Stops isNumeralChar (writtenItems items ++ rest) := by
  cases items with
  | nil => exact Reading.stops_cons rfl
  | cons j items => exact Reading.stops_cons rfl

theorem writtenItems_append_inj {items others : List Json} (hitems : ∀ j ∈ items, Separated j)
    (h : writtenItems items ++ rest = writtenItems others ++ rest') : items = others ∧ rest = rest' := by
  induction items generalizing others with
  | nil =>
    cases others with
    | nil => exact ⟨rfl, List.append_cancel_left h⟩
    | cons k others => cases (List.cons.inj h).1
  | cons j items ih =>
    cases others with
    | nil => cases (List.cons.inj h).1
    | cons k others =>
      obtain ⟨hj, hmore⟩ := List.forall_mem_cons.mp hitems
      rw [writtenItems, writtenItems, List.cons_append, List.cons_append, List.append_assoc, List.append_assoc] at h
      obtain ⟨rfl, hbehind⟩ := hj (stops_writtenItems _ _) (stops_writtenItems _ _) (List.cons.inj h).2
      obtain ⟨rfl, hend⟩ := ih hmore hbehind
      exact ⟨rfl, hend⟩

theorem separated_arr {items : List Json} (hitems : ∀ j ∈ items, Separated j) : Separated (.arr items) := by
  intro k rest rest' _ _ h
  cases k with
  | arr others =>
    rcases items with _ | ⟨j, items⟩
    · rcases others with _ | ⟨k, others⟩
      · exact ⟨rfl, List.append_cancel_left h⟩
      · rw [written, written, List.cons_append, List.cons_append, List.cons_append, List.append_assoc] at h
        exact absurd (List.cons.inj h).2.symm (written_append_ne rfl)
    · rcases others with _ | ⟨k, others⟩
      · rw [written, written, List.cons_append, List.cons_append, List.cons_append, List.append_assoc] at h
        exact absurd (List.cons.inj h).2 (written_append_ne rfl)
      · -- Behind the bracket, both go on like the items after a first one, but for the comma.
        have hcomma : writtenItems (j :: items) ++ rest = writtenItems (k :: others) ++ rest' :=
          congrArg (',' :: ·) (List.cons.inj h).2
        obtain ⟨heq, hend⟩ := writtenItems_append_inj hitems hcomma
        exact ⟨congrArg Json.arr heq, hend⟩
  | _ => cases kind_eq_of_append h

theorem stops_writtenMembers (members : List (String × Json)) (rest : List Char) :
    Stops isNumeralChar (writtenMembers members ++ rest) := by
  cases members with
  | nil => exact Reading.stops_cons rfl
  | cons m members => exact Reading.stops_cons rfl

theorem writtenMembers_append_inj {members others : List (String × Json)} (hmembers : ∀ m ∈ members, Separated m.2)
    (h : writtenMembers members ++ rest = writtenMembers others ++ rest') : members = others ∧ rest = rest' := by
  induction members generalizing others with
  | nil =>
    cases others with
    | nil => exact ⟨rfl, List.append_cancel_left h⟩
    | cons k others => cases (List.cons.inj h).1
  | cons m members ih =>
    cases others with
    | nil => cases (List.cons.inj h).1
    | cons k others =>
      obtain ⟨hj, hmore⟩ := List.forall_mem_cons.mp hmembers
      obtain ⟨name, j⟩ := m
      obtain ⟨name', k⟩ := k
      simp only [writtenMembers, List.cons_append, List.append_assoc] at h
      obtain ⟨rfl, hvalue⟩ := quoted_append_inj (List.cons.inj h).2
      obtain ⟨rfl, hbehind⟩ := hj (stops_writtenMembers _ _) (stops_writtenMembers _ _) (List.cons.inj hvalue).2
      obtain ⟨rfl, hend⟩ := ih hmore hbehind
      exact ⟨rfl, hend⟩

theorem separated_obj {members : List (String × Json)} (hmembers : ∀ m ∈ members, Separated m.2) :
    Separated (.obj members) := by
  intro k rest rest' _ _ h
  cases k with
  | obj others =>
    rcases members with _ | ⟨m, members⟩
    · rcases others with _ | ⟨m', others⟩
      · exact ⟨rfl, List.append_cancel_left h⟩
      · cases (List.cons.inj (List.cons.inj h).2).1
    · rcases others with _ | ⟨m', others⟩
      · cases (List.cons.inj (List.cons.inj h).2).1
      · have hcomma : writtenMembers (m :: members) ++ rest = writtenMembers (m' :: others) ++ rest' :=
          congrArg (',' :: ·) (List.cons.inj h).2
        obtain ⟨heq, hend⟩ := writtenMembers_append_inj hmembers hcomma
        exact ⟨congrArg Json.obj heq, hend⟩
  | _ => cases kind_eq_of_append h

/-! ### All values -/

/-- Every value can be told from what stands behind it. -/
theorem separated (j : Json) : Separated j := by
  induction j using Json.induction with
  | null => exact separated_null
  | bool b => exact separated_bool b
  | int n => exact separated_int n
  | float x => exact separated_float x
  | str s => exact separated_str s
  | arr items hitems => exact separated_arr hitems
  | obj members hmembers => exact separated_obj hmembers

theorem written_injective : Function.Injective written := by
  intro j k h
  have happend : written j ++ [] = written k ++ [] := congrArg (· ++ []) h
  exact (separated j Reading.stops_nil Reading.stops_nil happend).1

theorem orderedText_injective {members others : List (String × Json)} (h : orderedText members = orderedText others) :
    normalMembers members = normalMembers others :=
  Json.obj.inj (written_injective (String.ofList_injective h))

end Audience.Json
