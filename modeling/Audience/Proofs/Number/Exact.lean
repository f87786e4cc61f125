import Audience.Proofs.Number.Rounding

/-!
What a binary64 number is exactly. It is an integer when its exact value is one (`Binary64.toInt?_eq_some_iff`), and a
number above zero is told apart by its exact value (`Binary64.eq_of_value_eq`). An integer with the top one of 64 bits
set goes to the nearest multiple of 2048 (`Float64.exists_value_ofInt`).
-/

namespace Audience

namespace Binary64

variable {x y : Binary64}

/-- The number exactly. -/
def value (x : Binary64) : ℚ := if x.negative then -x.magnitude else x.magnitude

theorem magnitude_nonneg (x : Binary64) : 0 ≤ x.magnitude := div_nonneg (Nat.cast_nonneg _) (Nat.cast_nonneg _)

theorem magnitude_eq_natCast_iff {k : ℕ} : x.magnitude = k ↔ x.numerator = k * x.denominator := by
  have hden : (x.denominator : ℚ) ≠ 0 := by exact_mod_cast x.denominator_pos.ne'
  rw [magnitude, div_eq_iff hden]
  exact_mod_cast Iff.rfl

theorem value_eq_intCast_iff {n : ℤ} :
    x.value = n ↔ x.numerator = n.natAbs * x.denominator ∧ signed x.negative n.natAbs = n := by
  have hmagnitude : x.magnitude = (n.natAbs : ℕ) ↔ x.magnitude = |(n : ℚ)| := by
    rw [← Int.cast_abs, Int.abs_eq_natAbs, Int.cast_natCast]
  rw [← magnitude_eq_natCast_iff, hmagnitude]
  have hnonneg := x.magnitude_nonneg
  cases hsign : x.negative with
  | false =>
    simp only [value, signed, hsign, Bool.false_eq_true, if_false]
    constructor
    · intro h
      have hn : 0 ≤ n := by exact_mod_cast h ▸ hnonneg
      exact ⟨h.trans (abs_of_nonneg (by exact_mod_cast hn)).symm, by omega⟩
    · rintro ⟨h, hn⟩
      rw [h, abs_of_nonneg (by exact_mod_cast (by omega : 0 ≤ n))]
  | true =>
    simp only [value, signed, hsign, if_true]
    constructor
    · intro h
      have hn : n ≤ 0 := by
        have hle : (n : ℚ) ≤ 0 := h ▸ neg_nonpos.mpr hnonneg
        exact_mod_cast hle
      rw [abs_of_nonpos (by exact_mod_cast hn), ← h, neg_neg]
      exact ⟨rfl, by omega⟩
    · rintro ⟨h, hn⟩
      rw [h, abs_of_nonpos (by exact_mod_cast (by omega : n ≤ 0)), neg_neg]

theorem natAbs_signed (negative : Bool) (k : ℕ) : (signed negative k).natAbs = k := by cases negative <;> simp [signed]

/-- A number is read as an integer when it is that integer exactly. -/
theorem toInt?_eq_some_iff {n : ℤ} : x.toInt? = some n ↔ x.value = n := by
  rw [value_eq_intCast_iff, toInt?]
  constructor
  · intro h
    split at h
    · next hrest =>
      obtain rfl := Option.some.inj h
      rw [natAbs_signed, Nat.div_mul_cancel (Nat.dvd_of_mod_eq_zero hrest)]
      exact ⟨rfl, rfl⟩
    · cases h
  · rintro ⟨hnum, hsigned⟩
    rw [hnum, Nat.mul_mod_left, if_pos rfl, Nat.mul_div_cancel _ x.denominator_pos, hsigned]

theorem negative_eq_false (h : 0 < x.value) : x.negative = false := by
  cases hsign : x.negative with
  | false => rfl
  | true =>
    rw [value, hsign, if_pos rfl] at h
    exact absurd x.magnitude_nonneg (not_le.mpr (neg_pos.mp h))

/-- The two zeros have one value; of the numbers above them each has its own. -/
theorem eq_of_value_eq (h : x.value = y.value) (hpos : 0 < x.value) : x = y := by
  have hx := negative_eq_false hpos
  have hy := negative_eq_false (h ▸ hpos)
  have hmagnitude : x.magnitude = y.magnitude := by simpa [value, hx, hy] using h
  rw [magnitude, magnitude, div_eq_div_iff (by exact_mod_cast x.denominator_pos.ne')
    (by exact_mod_cast y.denominator_pos.ne')] at hmagnitude
  have hnearest := Float64.nearest_congr x.negative x.denominator_pos y.denominator_pos (by exact_mod_cast hmagnitude)
  rw [Float64.nearest_self, hx, ← hy, Float64.nearest_self] at hnearest
  exact Float64.finite.inj hnearest

end Binary64

/-! ### Integers with the top bit set -/

theorem Float64.exists_value_ofInt {n : ℤ} (hlow : 2 ^ 63 ≤ n) (hhigh : n < 2 ^ 64) :
    ∃ x, ofInt n = .finite x ∧ x.value = (2048 * divNearestEven n.natAbs 2048 : ℕ) := by
  obtain ⟨x, hx, hsign, hmagnitude⟩ := exists_finite_ofInt hlow hhigh
  exact ⟨x, hx, by rw [Binary64.value, hsign, if_neg Bool.false_ne_true, hmagnitude]⟩

theorem mul_divNearestEven_eq_iff {num den : ℕ} : den * divNearestEven num den = num ↔ den ∣ num := by
  constructor
  · exact fun h => Dvd.intro _ h
  · rintro ⟨k, rfl⟩
    rcases Nat.eq_zero_or_pos den with rfl | hden
    · simp
    · rw [Nat.mul_comm den k, divNearestEven_mul_self hden, Nat.mul_comm]

end Audience
