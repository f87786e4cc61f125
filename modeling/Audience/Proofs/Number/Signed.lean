import Audience.Proofs.Number.Natural

/-!
Integers of 64 bits read from text. A text is read when it is digits after an optional sign and denotes a number of the
range (`Reading.int64_eq_ok_iff`), and then as that number. Outside the range it is an error and no other number
(`Reading.int64_signed`, `Reading.int64_minus`).
-/

namespace Audience.Reading

variable {cs : List Char} {n : Int64}

/-- Digits of which an integer is made are read up to the limit. -/
theorem map_magnitude_digits (limit : Nat) (past : IntegerError) (num : Numeral) (g : Int → Int64) :
    (magnitude limit past 0 num.digits >>= fun m => pure (m : Int)).map g =
      if num.value ≤ limit then .ok (g num.value) else .error past := by
  have hread : magnitude limit past 0 num.digits = if num.value ≤ limit then .ok num.value else .error past :=
    magnitude_of_digits num.areDigits (Nat.zero_le limit)
  rw [hread]
  split <;> rfl

theorem int64_signed (plus : Bool) (num : Numeral) :
    int64 (signed plus num) =
      if num.value ≤ 0x7fffffffffffffff then .ok (Int64.ofInt num.value) else .error .tooLarge := by
  obtain ⟨c, hdigit, hc⟩ := num.head?_isDigit
  obtain ⟨cs, hcs⟩ := List.head?_eq_some_iff.mp hc
  rw [← map_magnitude_digits _ _ num fun m => Int64.ofInt m, signed, hcs]
  cases plus with
  | true => rfl
  | false =>
    have hsign : c ≠ '+' ∧ c ≠ '-' := by
      constructor
      · rintro rfl
        cases hdigit
      · rintro rfl
        cases hdigit
    simp only [Bool.false_eq_true, if_false, List.nil_append]
    unfold int64
    split
    · next heq => cases heq
    · next heq => exact absurd (List.cons.inj heq).1 hsign.1
    · next heq => exact absurd (List.cons.inj heq).1 hsign.2
    · next heq => exact absurd (List.cons.inj heq).1 hsign.2
    · next heq => exact absurd (List.cons.inj heq).1 hsign.1
    · rfl

theorem int64_minus (num : Numeral) :
    int64 ('-' :: num.digits) =
      if num.value ≤ 0x8000000000000000 then .ok (Int64.ofInt (-num.value)) else .error .tooSmall := by
  obtain ⟨c, -, hc⟩ := num.head?_isDigit
  obtain ⟨cs, hcs⟩ := List.head?_eq_some_iff.mp hc
  rw [← map_magnitude_digits _ _ num fun m => Int64.ofInt (-m), hcs]
  rfl

/-- What is read is digits after an optional sign. -/
theorem exists_numeral_of_int64 (h : int64 cs = .ok n) :
    ∃ num : Numeral, (∃ plus, cs = signed plus num) ∨ cs = '-' :: num.digits := by
  have hnumeral : ∀ {limit past m} {ds : List Char}, ds ≠ [] → magnitude limit past 0 ds = .ok m →
      ∃ num : Numeral, num.digits = ds := fun hne hmagnitude => ⟨⟨_, hne, areDigits_of_magnitude hmagnitude⟩, rfl⟩
  have hread : ∀ {x : Except IntegerError Nat} {g : Int → Int64}, (x >>= fun m => pure (m : Int)).map g = .ok n →
      ∃ m, x = .ok m := by
    intro x g hx
    cases x with
    | ok m => exact ⟨m, rfl⟩
    | error e => cases hx
  unfold int64 at h
  split at h
  · cases h
  · cases h
  · cases h
  · next ds hne =>
    obtain ⟨m, hm⟩ := hread h
    obtain ⟨num, rfl⟩ := hnumeral (fun hnil => hne (hnil ▸ rfl)) hm
    exact ⟨num, .inr rfl⟩
  · next ds hne =>
    obtain ⟨m, hm⟩ := hread h
    obtain ⟨num, rfl⟩ := hnumeral (fun hnil => hne (hnil ▸ rfl)) hm
    exact ⟨num, .inl ⟨true, rfl⟩⟩
  · next hne _ _ _ _ =>
    obtain ⟨m, hm⟩ := hread h
    obtain ⟨num, rfl⟩ := hnumeral hne hm
    exact ⟨num, .inl ⟨false, rfl⟩⟩

theorem toInt_ofInt_eq_iff {k : Int} (hlow : -0x8000000000000000 ≤ k) (hhigh : k < 0x8000000000000000) :
    Int64.ofInt k = n ↔ k = n.toInt := by
  rw [← Int64.toInt_inj, Int64.toInt_ofInt_of_le hlow hhigh]

/-- A text is read when it is digits after an optional sign and denotes a number of the range. -/
theorem int64_eq_ok_iff :
    int64 cs = .ok n ↔
      (∃ plus, ∃ num : Numeral, cs = signed plus num ∧ (num.value : Int) = n.toInt) ∨
        ∃ num : Numeral, cs = '-' :: num.digits ∧ -(num.value : Int) = n.toInt := by
  have hrange := n.le_toInt
  have hrange' := n.toInt_lt
  have hplus : ∀ plus (num : Numeral), int64 (signed plus num) = .ok n ↔ (num.value : Int) = n.toInt := by
    intro plus num
    rw [int64_signed]
    split
    · next hle => rw [Except.ok.injEq, toInt_ofInt_eq_iff (by omega) (by omega)]
    · next hlt =>
      simp only [reduceCtorEq, false_iff]
      omega
  have hminus : ∀ num : Numeral, int64 ('-' :: num.digits) = .ok n ↔ -(num.value : Int) = n.toInt := by
    intro num
    rw [int64_minus]
    split
    · next hle => rw [Except.ok.injEq, toInt_ofInt_eq_iff (by omega) (by omega)]
    · next hlt =>
      simp only [reduceCtorEq, false_iff]
      omega
  constructor
  · intro h
    obtain ⟨num, ⟨plus, rfl⟩ | rfl⟩ := exists_numeral_of_int64 h
    · exact .inl ⟨plus, num, rfl, (hplus plus num).mp h⟩
    · exact .inr ⟨num, rfl, (hminus num).mp h⟩
  · rintro (⟨plus, num, rfl, hvalue⟩ | ⟨num, rfl, hvalue⟩)
    · exact (hplus plus num).mpr hvalue
    · exact (hminus num).mpr hvalue

/-- An integer written in decimal digits is read as itself. -/
theorem int64_integerChars (n : Int64) : int64 (integerChars n.toInt) = .ok n := by
  have hdigits : (Numeral.ofNat n.toInt.natAbs).value = n.toInt.natAbs := Numeral.value_ofNat _
  rw [int64_eq_ok_iff]
  unfold integerChars
  split
  · next hnegative => exact .inr ⟨.ofNat n.toInt.natAbs, rfl, by omega⟩
  · next hnegative => exact .inl ⟨false, .ofNat n.toInt.natAbs, rfl, by omega⟩

end Audience.Reading
