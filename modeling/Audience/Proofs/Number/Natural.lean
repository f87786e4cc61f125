import Audience.Proofs.Number.Numeral

/-!
Natural numbers read from text. A text is read when it is digits after an optional plus sign and denotes a number up to
the limit (`Reading.natural_eq_ok_iff`); past the limit it is an error and no other number (`Reading.natural_signed`).
-/

namespace Audience.Reading

variable {limit acc n : Nat} {past : IntegerError} {cs : List Char}

theorem le_ofDigitChars (cs : List Char) (acc : Nat) : acc ≤ Nat.ofDigitChars 10 cs acc := by
  rw [Nat.ofDigitChars_eq_ofDigitChars_zero]
  exact Nat.le_add_right_of_le (Nat.le_mul_of_pos_left acc (Nat.pow_pos (by decide)))

/-- Digits are read as the number that they denote, or are past the limit with it. -/
theorem magnitude_of_digits (hcs : ∀ c ∈ cs, c.isDigit = true) (hacc : acc ≤ limit) :
    magnitude limit past acc cs =
      if Nat.ofDigitChars 10 cs acc ≤ limit then .ok (Nat.ofDigitChars 10 cs acc) else .error past := by
  induction cs generalizing acc with
  | nil => rw [magnitude, Nat.ofDigitChars_nil, if_pos hacc]
  | cons c cs ih =>
    obtain ⟨hc, hcs⟩ := List.forall_mem_cons.mp hcs
    have hnext : acc * 10 + digitValue c = 10 * acc + (c.toNat - '0'.toNat) := by rw [Nat.mul_comm]; rfl
    rw [magnitude, if_pos hc, hnext, Nat.ofDigitChars_cons]
    by_cases hle : 10 * acc + (c.toNat - '0'.toNat) ≤ limit
    · rw [if_pos hle, ih hcs hle]
    · have hpast := le_ofDigitChars cs (10 * acc + (c.toNat - '0'.toNat))
      rw [if_neg hle, if_neg (by omega)]

/-- What is read is digits. -/
theorem areDigits_of_magnitude (h : magnitude limit past acc cs = .ok n) : ∀ c ∈ cs, c.isDigit = true := by
  induction cs generalizing acc with
  | nil => simp
  | cons c cs ih =>
    simp only [magnitude] at h
    split at h
    · next hc =>
      split at h
      · exact List.forall_mem_cons.mpr ⟨hc, ih h⟩
      · cases h
    · cases h

/-- A number with a plus sign or none. -/
def signed (plus : Bool) (num : Numeral) : List Char := (if plus then ['+'] else []) ++ num.digits

theorem natural_signed (limit : Nat) (plus : Bool) (num : Numeral) :
    natural limit (signed plus num) = if num.value ≤ limit then .ok num.value else .error .tooLarge := by
  have hread : magnitude limit .tooLarge 0 num.digits = if num.value ≤ limit then .ok num.value else .error .tooLarge :=
    magnitude_of_digits num.areDigits (Nat.zero_le limit)
  obtain ⟨c, hdigit, hc⟩ := num.head?_isDigit
  obtain ⟨cs, hcs⟩ := List.head?_eq_some_iff.mp hc
  rw [← hread, signed, hcs]
  cases plus with
  | true => rfl
  | false =>
    have hplus : c ≠ '+' := by
      rintro rfl
      cases hdigit
    simp only [Bool.false_eq_true, if_false, List.nil_append]
    unfold natural
    split
    · next heq => cases heq
    · next heq => exact absurd (List.cons.inj heq).1 hplus
    · next heq => exact absurd (List.cons.inj heq).1 hplus
    · rfl

/-- A text is read when it is a number with a plus sign or none, up to the limit. -/
theorem natural_eq_ok_iff :
    natural limit cs = .ok n ↔ ∃ plus, ∃ num : Numeral, cs = signed plus num ∧ num.value = n ∧ n ≤ limit := by
  constructor
  · intro h
    have hnumeral : ∀ {ds : List Char}, ds ≠ [] → magnitude limit .tooLarge 0 ds = .ok n →
        ∃ num : Numeral, num.digits = ds := fun hne hmagnitude =>
      ⟨⟨_, hne, areDigits_of_magnitude hmagnitude⟩, rfl⟩
    have hsigned : ∃ plus, ∃ num : Numeral, cs = signed plus num := by
      unfold natural at h
      split at h
      · cases h
      · cases h
      · next ds hne =>
        obtain ⟨num, rfl⟩ := hnumeral (fun hnil => hne (hnil ▸ rfl)) h
        exact ⟨true, num, rfl⟩
      · next hne _ _ =>
        obtain ⟨num, rfl⟩ := hnumeral hne h
        exact ⟨false, num, rfl⟩
    obtain ⟨plus, num, rfl⟩ := hsigned
    rw [natural_signed] at h
    split at h
    · next hle =>
      obtain rfl := Except.ok.inj h
      exact ⟨plus, num, rfl, rfl, hle⟩
    · cases h
  · rintro ⟨plus, num, rfl, rfl, hle⟩
    rw [natural_signed, if_pos hle]

end Audience.Reading
