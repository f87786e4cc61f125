import Audience.Proofs.Number.Text
import Audience.Proofs.Text.Trimming
import Mathlib.Data.List.Induction

/-!
Numbers as rows of digits. A number of a given width has one row (`Numeral.eq_of_value_eq`), the one with zeros in front
(`Numeral.eq_padded`). A row in front of something else ends where the digits end (`Numeral.append_inj`), and no digit is
a blank.
-/

namespace Audience

namespace Text

theorem isBlank_of_isDigit {c : Char} (h : c.isDigit = true) : isBlank c = false := by
  have hrange : 48 ≤ c.toNat ∧ c.toNat ≤ 57 := Char.isDigit_iff_toNat.mp h
  simp only [isBlank, Bool.or_eq_false_iff, Bool.and_eq_false_iff, decide_eq_false_iff_not, beq_eq_false_iff_ne]
  omega

end Text

namespace Reading

variable {c d : Char} {cs ds : List Char}

theorem takeWhile_append {p : Char → Bool} (hcs : ∀ c ∈ cs, p c = true) (hds : Stops p ds) :
    (cs ++ ds).takeWhile p = cs := by
  have hspan := span_append hcs hds
  rw [List.span_eq_takeWhile_dropWhile] at hspan
  exact (Prod.mk.inj hspan).1

theorem ofDigits_singleton (c : Char) : ofDigits [c] = digitValue c := by
  rw [ofDigits, Nat.ofDigitChars_cons, Nat.ofDigitChars_nil, Nat.mul_zero, Nat.zero_add, digitValue]

theorem digitValue_lt (h : c.isDigit = true) : digitValue c < 10 := by
  have hrange : 48 ≤ c.toNat ∧ c.toNat ≤ 57 := Char.isDigit_iff_toNat.mp h
  show c.toNat - 48 < 10
  omega

theorem digitValue_inj (hc : c.isDigit = true) (hd : d.isDigit = true) (h : digitValue c = digitValue d) : c = d := by
  have hrange : 48 ≤ c.toNat ∧ c.toNat ≤ 57 := Char.isDigit_iff_toNat.mp hc
  have hrange' : 48 ≤ d.toNat ∧ d.toNat ≤ 57 := Char.isDigit_iff_toNat.mp hd
  have hsub : c.toNat - 48 = d.toNat - 48 := h
  exact Char.toNat_inj.mp (by omega)

theorem ofDigits_lt (h : ∀ c ∈ cs, c.isDigit = true) : ofDigits cs < 10 ^ cs.length := by
  induction cs using List.reverseRecOn with
  | nil => decide
  | append_singleton cs c ih =>
    obtain ⟨hcs, hc⟩ := List.forall_mem_append.mp h
    rw [List.forall_mem_singleton] at hc
    have hlt := ih hcs
    have hdigit := digitValue_lt hc
    rw [ofDigits_append, ofDigits_singleton, List.length_append, List.length_singleton, Nat.pow_one, Nat.pow_succ]
    omega

/-- Digits of one width are told apart by their value. -/
theorem ofDigits_inj (hcs : ∀ c ∈ cs, c.isDigit = true) (hds : ∀ d ∈ ds, d.isDigit = true)
    (hlength : cs.length = ds.length) (h : ofDigits cs = ofDigits ds) : cs = ds := by
  induction cs using List.reverseRecOn generalizing ds with
  | nil => exact (List.length_eq_zero_iff.mp hlength.symm).symm
  | append_singleton cs c ih =>
    cases ds using List.reverseRecOn with
    | nil => simp at hlength
    | append_singleton ds d =>
      obtain ⟨hcs, hc⟩ := List.forall_mem_append.mp hcs
      obtain ⟨hds, hd⟩ := List.forall_mem_append.mp hds
      rw [List.forall_mem_singleton] at hc hd
      rw [ofDigits_append, ofDigits_append, ofDigits_singleton, ofDigits_singleton, List.length_singleton,
        List.length_singleton, Nat.pow_one] at h
      have hlt := digitValue_lt hc
      have hlt' := digitValue_lt hd
      have hfront : cs = ds := ih hcs hds (by simpa using hlength) (by omega)
      have hlast : c = d := digitValue_inj hc hd (by omega)
      rw [hfront, hlast]

end Reading

/-- One or more digits. -/
structure Numeral where
  digits : List Char
  nonempty : digits ≠ []
  areDigits : ∀ c ∈ digits, c.isDigit = true

namespace Numeral

variable {m n : Numeral} {rest more before : List Char}

/-- The number that the digits denote. -/
def value (n : Numeral) : Nat := Reading.ofDigits n.digits

/-- A number in digits, without zeros in front of it. -/
def ofNat (n : Nat) : Numeral := ⟨Nat.toDigits 10 n, Nat.toDigits_ne_nil, fun _ => Reading.isDigit_of_mem_toDigits⟩

theorem value_ofNat (n : Nat) : (ofNat n).value = n := Reading.ofDigits_toDigits n

/-- A number with zeros in front of it up to a width. -/
def padded (width n : Nat) : Numeral where
  digits := (Nat.toDigits 10 n).leftpad width '0'
  nonempty := List.append_ne_nil_of_right_ne_nil _ Nat.toDigits_ne_nil
  areDigits := by
    intro c hc
    rcases List.mem_append.mp hc with hc | hc
    · obtain rfl := List.eq_of_mem_replicate hc
      rfl
    · exact Reading.isDigit_of_mem_toDigits hc

theorem value_padded (width n : Nat) : (padded width n).value = n := by
  simp only [value, padded, List.leftpad]
  rw [Reading.ofDigits_append, Reading.ofDigits_replicate_zero, Nat.zero_mul, Nat.zero_add, Reading.ofDigits_toDigits]

theorem length_padded {width n : Nat} (hwidth : 0 < width) (h : n < 10 ^ width) :
    (padded width n).digits.length = width := by
  have hle := (Nat.length_toDigits_le_iff (by decide) hwidth).mpr h
  rw [padded, List.length_leftpad, Nat.max_eq_left hle]

theorem value_lt (n : Numeral) : n.value < 10 ^ n.digits.length := Reading.ofDigits_lt n.areDigits

theorem length_pos (n : Numeral) : 0 < n.digits.length := List.length_pos_iff.mpr n.nonempty

theorem eq_of_digits_eq (h : m.digits = n.digits) : m = n := by
  cases m
  cases n
  cases h
  rfl

theorem eq_of_value_eq (hlength : m.digits.length = n.digits.length) (h : m.value = n.value) : m = n :=
  eq_of_digits_eq (Reading.ofDigits_inj m.areDigits n.areDigits hlength h)

/-- The digits of a number are those with zeros in front up to their own width. -/
theorem eq_padded (n : Numeral) : n = padded n.digits.length n.value :=
  eq_of_value_eq (length_padded n.length_pos n.value_lt).symm (value_padded _ _).symm

/-! ### Digits in a text -/

theorem head?_isDigit (n : Numeral) : ∃ c, c.isDigit = true ∧ n.digits.head? = some c := by
  obtain ⟨digits, hne, hdigits⟩ := n
  cases digits with
  | nil => exact absurd rfl hne
  | cons c cs => exact ⟨c, hdigits c List.mem_cons_self, rfl⟩

theorem head?_append_isDigit (n : Numeral) (rest : List Char) :
    ∃ c, c.isDigit = true ∧ (n.digits ++ rest).head? = some c := by
  obtain ⟨c, hdigit, hc⟩ := n.head?_isDigit
  exact ⟨c, hdigit, by rw [List.head?_append, hc, Option.some_or]⟩

theorem getLast?_isDigit (n : Numeral) : ∃ c, c.isDigit = true ∧ n.digits.getLast? = some c :=
  ⟨_, n.areDigits _ (List.getLast_mem n.nonempty), List.getLast?_eq_some_getLast n.nonempty⟩

theorem append_inj (hrest : Reading.Stops Char.isDigit rest) (hmore : Reading.Stops Char.isDigit more)
    (h : m.digits ++ rest = n.digits ++ more) : m = n ∧ rest = more := by
  have hspan := Reading.span_append m.areDigits hrest
  rw [h, Reading.span_append n.areDigits hmore] at hspan
  obtain ⟨hdigits, hafter⟩ := Prod.mk.inj hspan
  exact ⟨eq_of_digits_eq hdigits.symm, hafter.symm⟩

/-- Blanks do not start with a digit. -/
theorem eq_nil_of_blanks_append (hblanks : Text.Blanks before) (h : before ++ rest = n.digits ++ more) :
    before = [] := by
  cases before with
  | nil => rfl
  | cons c before =>
    obtain ⟨d, hdigit, hd⟩ := n.head?_append_isDigit more
    rw [← h] at hd
    obtain rfl := Option.some.inj hd
    have hblank := hblanks c List.mem_cons_self
    rw [Text.isBlank_of_isDigit hdigit] at hblank
    cases hblank

end Numeral

end Audience
