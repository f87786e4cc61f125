import Audience.Number.Binary64
import Mathlib.Data.Int.Log
import Mathlib.Data.Rat.Floor
import Mathlib.Tactic.FieldSimp
import Mathlib.Tactic.GCongr
import Mathlib.Tactic.Linarith
import Mathlib.Tactic.Positivity
import Mathlib.Tactic.Ring

/-!
Rounding to the binary64 format depends on the quotient alone, not on how it is written (`Float64.nearest_congr`),
and it leaves a number of the format as it is (`Float64.nearest_self`). For the first, the exponent comes from the
leading bit of the quotient, which is `Int.log 2`; for the second, the mantissa is divided without a rest.
-/

namespace Audience

/-! ### Powers with any exponent -/

/-- A power as a quotient of two powers, one of which is one. -/
theorem zpow_eq_div {b : ℕ} (hb : 0 < b) (k : ℤ) : (b : ℚ) ^ k = (b : ℚ) ^ k.toNat / (b : ℚ) ^ (-k).toNat := by
  have hne : (b : ℚ) ≠ 0 := by positivity
  have hk : k = (k.toNat : ℤ) - ((-k).toNat : ℤ) := by omega
  conv_lhs => rw [hk, zpow_sub₀ hne, zpow_natCast, zpow_natCast]

theorem log_eq_of_le_of_lt {b : ℕ} (hb : 1 < b) {q : ℚ} {k : ℤ} (hle : (b : ℚ) ^ k ≤ q)
    (hlt : q < (b : ℚ) ^ (k + 1)) : Int.log b q = k := by
  have hbase : (0 : ℚ) < b := by exact_mod_cast Nat.zero_lt_one.trans hb
  have hpos : (0 : ℚ) < q := lt_of_lt_of_le (zpow_pos hbase k) hle
  have hge := (Int.zpow_le_iff_le_log hb hpos).mp hle
  have hlt := (Int.lt_zpow_iff_log_lt hb hpos).mp hlt
  omega

section

variable {num den num' den' k : ℕ}

/-! ### The leading bit -/

/-- The bits of numerator and denominator place the quotient between two powers of two. -/
theorem zpow_log2_bounds (hnum : 0 < num) (hden : 0 < den) :
    (2 : ℚ) ^ ((num.log2 : ℤ) - den.log2 - 1) ≤ (num : ℚ) / den ∧
      (num : ℚ) / den < (2 : ℚ) ^ ((num.log2 : ℤ) - den.log2 + 1) := by
  have hnum_le : (2 : ℚ) ^ num.log2 ≤ num := by exact_mod_cast Nat.log2_self_le hnum.ne'
  have hnum_lt : (num : ℚ) < 2 ^ (num.log2 + 1) := by exact_mod_cast Nat.lt_log2_self
  have hden_le : (2 : ℚ) ^ den.log2 ≤ den := by exact_mod_cast Nat.log2_self_le hden.ne'
  have hden_lt : (den : ℚ) < 2 ^ (den.log2 + 1) := by exact_mod_cast Nat.lt_log2_self
  have hden_pos : (0 : ℚ) < den := by exact_mod_cast hden
  have hlow : (num.log2 : ℤ) - den.log2 - 1 = (num.log2 : ℕ) - ((den.log2 + 1 : ℕ) : ℤ) := by omega
  have hhigh : (num.log2 : ℤ) - den.log2 + 1 = ((num.log2 + 1 : ℕ) : ℤ) - (den.log2 : ℕ) := by omega
  rw [hlow, hhigh, zpow_sub₀ two_ne_zero, zpow_sub₀ two_ne_zero, zpow_natCast, zpow_natCast, zpow_natCast, zpow_natCast]
  constructor
  · calc (2 : ℚ) ^ num.log2 / 2 ^ (den.log2 + 1) ≤ num / 2 ^ (den.log2 + 1) := by gcongr
      _ ≤ num / den := by gcongr
  · calc (num : ℚ) / den < 2 ^ (num.log2 + 1) / den := by gcongr
      _ ≤ 2 ^ (num.log2 + 1) / 2 ^ den.log2 := by gcongr

theorem mul_pow_toNat_le_iff (hden : 0 < den) (k : ℤ) :
    den * Nat.pow 2 k.toNat ≤ num * Nat.pow 2 (-k).toNat ↔ (2 : ℚ) ^ k ≤ (num : ℚ) / den := by
  have hden : (0 : ℚ) < den := by exact_mod_cast hden
  have hpow := zpow_eq_div (b := 2) (by decide) k
  push_cast at hpow
  rw [hpow, div_le_div_iff₀ (by positivity) hden, mul_comm ((2 : ℚ) ^ k.toNat)]
  exact_mod_cast Iff.rfl

theorem floorLog2_eq_log (hnum : 0 < num) (hden : 0 < den) : floorLog2 num den = Int.log 2 ((num : ℚ) / den) := by
  obtain ⟨hlow, hhigh⟩ := zpow_log2_bounds hnum hden
  simp only [floorLog2]
  split
  · next hle =>
    exact (log_eq_of_le_of_lt (b := 2) (by decide) (by exact_mod_cast (mul_pow_toNat_le_iff hden _).mp hle)
      (by exact_mod_cast hhigh)).symm
  · next hlt =>
    rw [mul_pow_toNat_le_iff hden, not_le] at hlt
    refine (log_eq_of_le_of_lt (b := 2) (by decide) (by exact_mod_cast hlow) ?_).symm
    rw [sub_add_cancel]
    exact_mod_cast hlt

/-! ### The quotient alone -/

theorem divNearestEven_mul (hk : 0 < k) (num den : ℕ) :
    divNearestEven (num * k) (den * k) = divNearestEven num den := by
  have hlt : ∀ a b : ℕ, a * k < b * k ↔ a < b := fun a b => Nat.mul_lt_mul_right hk
  simp only [divNearestEven, Nat.mul_div_mul_right _ _ hk, Nat.mul_mod_mul_right, ← Nat.mul_assoc, hlt]

theorem divNearestEven_mul_self (hden : 0 < den) (m : ℕ) : divNearestEven (m * den) den = m := by
  have h := divNearestEven_mul hden m 1
  rwa [Nat.one_mul, divNearestEven_one] at h

namespace Float64

theorem nearest_mul (negative : Bool) (hk : 0 < k) (hden : 0 < den) :
    nearest negative (num * k) (den * k) = nearest negative num den := by
  rcases Nat.eq_zero_or_pos num with rfl | hnum
  · simp [nearest]
  · have hlog : floorLog2 (num * k) (den * k) = floorLog2 num den := by
      rw [floorLog2_eq_log (Nat.mul_pos hnum hk) (Nat.mul_pos hden hk), floorLog2_eq_log hnum hden]
      push_cast
      rw [mul_div_mul_right _ _ (by positivity)]
    have hmantissa : ∀ a b : ℕ, divNearestEven (num * k * a) (den * k * b) = divNearestEven (num * a) (den * b) := by
      intro a b
      rw [Nat.mul_right_comm num, Nat.mul_right_comm den, divNearestEven_mul hk]
    simp only [nearest, hlog, hmantissa, hnum.ne', (Nat.mul_pos hnum hk).ne', if_false]

/-- Equal quotients have one nearest number. -/
theorem nearest_congr (negative : Bool) (hden : 0 < den) (hden' : 0 < den') (h : num * den' = num' * den) :
    nearest negative num den = nearest negative num' den' :=
  calc nearest negative num den = nearest negative (num * den') (den * den') := (nearest_mul negative hden' hden).symm
    _ = nearest negative (num' * den) (den' * den) := by rw [h, Nat.mul_comm den]
    _ = nearest negative num' den' := nearest_mul negative hden hden'

end Float64

end

/-! ### Numbers of the format -/

namespace Binary64

/-- The number without its sign. -/
def magnitude (x : Binary64) : ℚ := (x.numerator : ℚ) / x.denominator

theorem magnitude_eq (x : Binary64) : x.magnitude = x.mantissa * (2 : ℚ) ^ x.exponent := by
  have hpow := zpow_eq_div (b := 2) (by decide) x.exponent
  push_cast at hpow
  rw [hpow, magnitude, numerator, denominator, Nat.pow_eq, Nat.pow_eq, ← mul_div_assoc]
  push_cast
  rfl

theorem exponent_of_lt (x : Binary64) (h : x.mantissa < 2 ^ 52) : x.exponent = -1074 := by
  obtain ⟨-, -, -, hfull | hleast⟩ := x.canonical
  · exact absurd h (Nat.not_lt.mpr hfull)
  · exact hleast

theorem eq_zero (x : Binary64) (h : x.mantissa = 0) : x = zero x.negative := by
  have hexponent := x.exponent_of_lt (by omega)
  obtain ⟨negative, mantissa, exponent, canonical⟩ := x
  simp only at h hexponent
  subst h hexponent
  rfl

/-- The exponent that rounding takes for a number of the format is its own. -/
theorem exponent_eq (x : Binary64) (h : 0 < x.mantissa) :
    max (-1074) (floorLog2 x.numerator x.denominator - 52) = x.exponent := by
  have hnum : 0 < x.numerator := Nat.mul_pos h (Nat.two_pow_pos _)
  obtain ⟨hlt, hleast, -, hfull⟩ := x.canonical
  have hpow : (0 : ℚ) < (2 : ℚ) ^ x.exponent := zpow_pos two_pos _
  have hmagnitude : ((x.numerator : ℚ) / x.denominator) = x.mantissa * (2 : ℚ) ^ x.exponent := x.magnitude_eq
  have hmantissa : (0 : ℚ) < x.mantissa := by exact_mod_cast h
  have hpos : (0 : ℚ) < x.mantissa * (2 : ℚ) ^ x.exponent := mul_pos hmantissa hpow
  have hupper : Int.log 2 (x.mantissa * (2 : ℚ) ^ x.exponent) < 53 + x.exponent := by
    refine (Int.lt_zpow_iff_log_lt (by decide) hpos).mp ?_
    have hlt : (x.mantissa : ℚ) < (2 : ℚ) ^ (53 : ℤ) := by exact_mod_cast hlt
    push_cast
    rw [zpow_add₀ two_ne_zero]
    gcongr
  rw [floorLog2_eq_log hnum x.denominator_pos, hmagnitude]
  rcases hfull with hfull | hleast'
  · have hlower : 52 + x.exponent ≤ Int.log 2 (x.mantissa * (2 : ℚ) ^ x.exponent) := by
      refine (Int.zpow_le_iff_le_log (by decide) hpos).mp ?_
      have hle : (2 : ℚ) ^ (52 : ℤ) ≤ x.mantissa := by exact_mod_cast hfull
      push_cast
      rw [zpow_add₀ two_ne_zero]
      gcongr
    omega
  · omega

end Binary64

/-- A number of the format is the nearest one to itself. -/
theorem Float64.nearest_self (x : Binary64) : nearest x.negative x.numerator x.denominator = .finite x := by
  rcases Nat.eq_zero_or_pos x.mantissa with hzero | hpos
  · have hnum : x.numerator = 0 := by simp [Binary64.numerator, hzero]
    rw [nearest, if_pos hnum, ← x.eq_zero hzero]
  · have hnum : x.numerator ≠ 0 := (Nat.mul_pos hpos (Nat.two_pow_pos _)).ne'
    have hmantissa : divNearestEven (x.numerator * Nat.pow 2 (-x.exponent).toNat)
        (x.denominator * Nat.pow 2 x.exponent.toNat) = x.mantissa := by
      have hden : 0 < x.denominator * Nat.pow 2 x.exponent.toNat := Nat.mul_pos x.denominator_pos (Nat.two_pow_pos _)
      rw [← divNearestEven_mul_self hden x.mantissa]
      congr 1
      simp only [Binary64.numerator, Binary64.denominator]
      ring
    simp only [nearest, if_neg hnum, x.exponent_eq hpos, hmantissa, dif_pos x.canonical]

/-! ### Integers -/

theorem divNearestEven_bounds (num den : ℕ) : num / den ≤ divNearestEven num den ∧ divNearestEven num den ≤ num / den + 1 := by
  simp only [divNearestEven]
  split_ifs <;> omega

theorem Binary64.canonical_or_half {m : ℕ} {e : ℤ} (hlow : 2 ^ 52 ≤ m) (hhigh : m ≤ 2 ^ 53) (hleast : -1074 ≤ e)
    (hmost : e < 971) : Canonical m e ∨ Canonical (m / 2) (e + 1) := by
  have h52 : Nat.pow 2 52 = 2 ^ 52 := rfl
  have h53 : Nat.pow 2 53 = 2 ^ 53 := rfl
  simp only [Canonical, h52, h53]
  omega

/-- An integer of 64 bits with its top bit set is far from the infinities. Its 53 leading bits are kept, so it goes to the
nearest multiple of 2048. -/
theorem Float64.exists_finite_ofInt {n : ℤ} (hlow : 2 ^ 63 ≤ n) (hhigh : n < 2 ^ 64) :
    ∃ x, ofInt n = .finite x ∧ x.negative = false ∧ x.magnitude = (2048 * divNearestEven n.natAbs 2048 : ℕ) := by
  obtain ⟨k, rfl⟩ := Int.eq_ofNat_of_zero_le (by omega : 0 ≤ n)
  have hlow : 2 ^ 63 ≤ k := by exact_mod_cast hlow
  have hhigh : k < 2 ^ 64 := by exact_mod_cast hhigh
  have hlog : floorLog2 k 1 = 63 := by
    have hbits : k.log2 = 63 := (Nat.log2_eq_iff (by omega)).mpr ⟨hlow, hhigh⟩
    have hone : (1 : ℕ).log2 = 0 := by decide
    simp [floorLog2, hbits, hone]
    omega
  have hexponent : max (-1074) ((63 : ℤ) - 52) = 11 := by decide
  have hsign : decide ((k : ℤ) < 0) = false := by simp
  have hquotient : divNearestEven (k * Nat.pow 2 (-11 : ℤ).toNat) (1 * Nat.pow 2 (11 : ℤ).toNat) =
      divNearestEven k 2048 := by
    have hpow : Nat.pow 2 (-11 : ℤ).toNat = 1 ∧ Nat.pow 2 (11 : ℤ).toNat = 2048 := ⟨rfl, rfl⟩
    rw [hpow.1, hpow.2, Nat.mul_one, Nat.one_mul]
  have hbounds := divNearestEven_bounds k 2048
  rw [ofInt, hsign, Int.natAbs_natCast, nearest, if_neg (by omega)]
  simp only [hlog, hexponent, hquotient]
  have hcanonical := Binary64.canonical_or_half (m := divNearestEven k 2048) (e := 11) (by omega) (by omega) (by decide)
    (by decide)
  split
  · refine ⟨_, rfl, rfl, ?_⟩
    rw [Binary64.magnitude_eq]
    push_cast
    norm_num [mul_comm]
  · next hfirst =>
    split
    · next hsecond =>
      -- Only the next power of two has a bit too many.
      have htop : divNearestEven k 2048 = 2 ^ 53 := by
        have h53 : Nat.pow 2 53 = 2 ^ 53 := rfl
        have h52 : Nat.pow 2 52 = 2 ^ 52 := rfl
        simp only [Binary64.Canonical, h53, h52] at hfirst
        omega
      refine ⟨_, rfl, rfl, ?_⟩
      rw [Binary64.magnitude_eq]
      simp only [htop]
      norm_num
    · next hsecond => exact absurd hcanonical (not_or.mpr ⟨hfirst, hsecond⟩)

end Audience
