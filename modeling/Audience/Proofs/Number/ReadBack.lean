import Audience.Number.Layout
import Audience.Proofs.Number.Rounding

/-!
The shortest decimal of a binary64 number reads back as the number (`Float64.ofDecimal_shortest`). The nearest number
to a decimal depends on its value alone, so the zeros that end its digits may be dropped. Each candidate is tested
before it is taken, and where none is taken the exact value is, which lies well inside the range that is worked out.
-/

namespace Audience

namespace Decimal

/-- The number that the decimal stands for. -/
def value (d : Decimal) : ℚ := d.digits * (10 : ℚ) ^ d.exponent

variable {d d' : Decimal}

theorem value_eq_div (d : Decimal) :
    d.value = ((d.digits * Nat.pow 10 d.exponent.toNat : ℕ) : ℚ) / (Nat.pow 10 (-d.exponent).toNat : ℕ) := by
  have hpow := zpow_eq_div (b := 10) (by decide) d.exponent
  push_cast at hpow
  rw [value, hpow, Nat.pow_eq, Nat.pow_eq, ← mul_div_assoc]
  push_cast
  rfl

theorem value_eq_zero_iff : d.value = 0 ↔ d.digits = 0 := by
  have hpow : (10 : ℚ) ^ d.exponent ≠ 0 := zpow_ne_zero _ (by norm_num)
  rw [value, mul_eq_zero_iff_right hpow, Nat.cast_eq_zero]

theorem value_stripped (d : Decimal) : d.stripped.value = d.value := by
  induction d using stripped.induct with
  | case1 d h ih =>
    have hdigits : (d.digits : ℚ) = (d.digits / 10 : ℕ) * 10 := by
      have hdiv : d.digits = d.digits / 10 * 10 := by omega
      exact_mod_cast hdiv
    rw [stripped, dif_pos h, ih, value, value, hdigits, zpow_add_one₀ (by norm_num)]
    ring
  | case2 d h => rw [stripped, dif_neg h]

theorem pow_digitCount_bounds {n : ℕ} (h : 0 < n) : 10 ^ (digitCount n - 1) ≤ n ∧ n < 10 ^ digitCount n := by
  have hpos : 0 < digitCount n := Nat.length_toDigits_pos
  refine ⟨?_, (Nat.length_toDigits_le_iff (by decide) hpos).mp (Nat.le_refl _)⟩
  rcases Nat.eq_zero_or_pos (digitCount n - 1) with hone | hmore
  · rw [hone]
    exact h
  · refine Nat.le_of_not_lt fun hlt => ?_
    have hle : digitCount n ≤ digitCount n - 1 := (Nat.length_toDigits_le_iff (by decide) hmore).mpr hlt
    omega

/-- How many digits stand before the point depends on the value alone. -/
theorem point_eq_log (h : 0 < d.digits) : d.point = Int.log 10 d.value + 1 := by
  obtain ⟨hle, hlt⟩ := pow_digitCount_bounds h
  have hpos : 0 < digitCount d.digits := Nat.length_toDigits_pos
  have hpow : (0 : ℚ) < (10 : ℚ) ^ d.exponent := zpow_pos (by norm_num) _
  have hle : (10 : ℚ) ^ ((digitCount d.digits - 1 : ℕ) : ℤ) ≤ d.digits := by
    rw [zpow_natCast]
    exact_mod_cast hle
  have hlt : (d.digits : ℚ) < (10 : ℚ) ^ (digitCount d.digits : ℤ) := by
    rw [zpow_natCast]
    exact_mod_cast hlt
  have hlog : Int.log 10 d.value = d.point - 1 := by
    have hlow : d.point - 1 = ((digitCount d.digits - 1 : ℕ) : ℤ) + d.exponent := by
      unfold point
      omega
    have hhigh : d.point - 1 + 1 = (digitCount d.digits : ℤ) + d.exponent := by
      unfold point
      omega
    refine log_eq_of_le_of_lt (by decide) ?_ ?_
    · rw [hlow, Nat.cast_ofNat, zpow_add₀ (by norm_num), value]
      exact mul_le_mul_of_nonneg_right hle hpow.le
    · rw [hhigh, Nat.cast_ofNat, zpow_add₀ (by norm_num), value]
      exact mul_lt_mul_of_pos_right hlt hpow
  omega

end Decimal

namespace Float64

variable {d d' : Decimal}

theorem ofDecimal_eq (negative : Bool) (d : Decimal) :
    ofDecimal negative d =
      if d.digits = 0 then .finite (Binary64.zero negative)
      else if 310 < d.point then .infinite negative
      else if d.point < -330 then .finite (Binary64.zero negative)
      else nearest negative (d.digits * Nat.pow 10 d.exponent.toNat) (Nat.pow 10 (-d.exponent).toNat) := rfl

/-- Decimals of one value have one nearest number. -/
theorem ofDecimal_congr (negative : Bool) (h : d.value = d'.value) : ofDecimal negative d = ofDecimal negative d' := by
  have hzero : d.digits = 0 ↔ d'.digits = 0 := by rw [← Decimal.value_eq_zero_iff, h, Decimal.value_eq_zero_iff]
  rw [ofDecimal_eq, ofDecimal_eq]
  rcases Nat.eq_zero_or_pos d.digits with hd | hd
  · rw [if_pos hd, if_pos (hzero.mp hd)]
  · have hd' : 0 < d'.digits := Nat.pos_of_ne_zero (mt hzero.mpr hd.ne')
    have hpoint : d.point = d'.point := by rw [Decimal.point_eq_log hd, Decimal.point_eq_log hd', h]
    have hden : ∀ d : Decimal, 0 < Nat.pow 10 (-d.exponent).toNat := fun d => Nat.pow_pos (by decide)
    rw [Decimal.value_eq_div, Decimal.value_eq_div, div_eq_div_iff (by exact_mod_cast (hden d).ne')
      (by exact_mod_cast (hden d').ne')] at h
    rw [if_neg hd.ne', if_neg hd'.ne', hpoint, nearest_congr negative (hden d) (hden d') (by exact_mod_cast h)]

end Float64

namespace Binary64

variable (x : Binary64)

theorem value_exact : x.exact.value = x.magnitude := by
  rw [magnitude_eq, exact]
  split
  · next hle =>
    have hexponent : (2 : ℚ) ^ x.exponent = 2 ^ x.exponent.toNat := by
      rw [← zpow_natCast, Int.toNat_of_nonneg hle]
    simp [Decimal.value, hexponent]
  · next hlt =>
    have hexponent : x.exponent = -((-x.exponent).toNat : ℤ) := by omega
    simp only [Decimal.value]
    rw [hexponent]
    simp only [neg_neg, Int.toNat_natCast, zpow_neg, zpow_natCast, Nat.pow_eq]
    have hten : (10 : ℚ) = 2 * 5 := by norm_num
    rw [hten, mul_pow]
    push_cast
    field_simp

theorem ten_zpow_le_two_zpow : (10 : ℚ) ^ (-324 : ℤ) ≤ (2 : ℚ) ^ (-1074 : ℤ) := by
  have hnat : 2 ^ 1074 ≤ 10 ^ 324 := by decide +kernel
  rw [zpow_neg, zpow_neg]
  exact inv_anti₀ (zpow_pos two_pos _) (by exact_mod_cast hnat)

theorem two_zpow_lt_ten_zpow : (2 : ℚ) ^ 53 * (2 : ℚ) ^ (971 : ℤ) < (10 : ℚ) ^ (309 : ℤ) := by
  have hnat : 2 ^ 53 * 2 ^ 971 < 10 ^ 309 := by decide +kernel
  exact_mod_cast hnat

theorem magnitude_bounds (h : 0 < x.mantissa) :
    (10 : ℚ) ^ (-324 : ℤ) ≤ x.magnitude ∧ x.magnitude < (10 : ℚ) ^ (309 : ℤ) := by
  obtain ⟨hlt, hleast, hmost, -⟩ := x.canonical
  rw [magnitude_eq]
  constructor
  · have hone : (1 : ℚ) ≤ x.mantissa := by exact_mod_cast h
    calc (10 : ℚ) ^ (-324 : ℤ) ≤ (2 : ℚ) ^ (-1074 : ℤ) := ten_zpow_le_two_zpow
      _ ≤ (2 : ℚ) ^ x.exponent := zpow_le_zpow_right₀ one_le_two hleast
      _ ≤ x.mantissa * (2 : ℚ) ^ x.exponent := le_mul_of_one_le_left (zpow_pos two_pos _).le hone
  · have hmantissa : (x.mantissa : ℚ) < 2 ^ 53 := by exact_mod_cast hlt
    calc x.mantissa * (2 : ℚ) ^ x.exponent < 2 ^ 53 * (2 : ℚ) ^ x.exponent :=
          mul_lt_mul_of_pos_right hmantissa (zpow_pos two_pos _)
      _ ≤ 2 ^ 53 * (2 : ℚ) ^ (971 : ℤ) := by gcongr; norm_num
      _ < (10 : ℚ) ^ (309 : ℤ) := two_zpow_lt_ten_zpow

end Binary64

namespace Float64

variable {x : Binary64} {d : Decimal}

/-- A decimal that is exactly a number of the format reads as that number. -/
theorem ofDecimal_of_value_eq (h : d.value = x.magnitude) : ofDecimal x.negative d = .finite x := by
  have hdiv := Decimal.value_eq_div d
  have hden : 0 < Nat.pow 10 (-d.exponent).toNat := Nat.pow_pos (by decide)
  have hcross : d.digits * Nat.pow 10 d.exponent.toNat * x.denominator = x.numerator * Nat.pow 10 (-d.exponent).toNat := by
    rw [hdiv, Binary64.magnitude, div_eq_div_iff (by exact_mod_cast hden.ne') (by exact_mod_cast x.denominator_pos.ne')] at h
    exact_mod_cast h
  have hnearest := (nearest_congr x.negative hden x.denominator_pos hcross).trans (nearest_self x)
  rw [ofDecimal_eq]
  rcases Nat.eq_zero_or_pos d.digits with hzero | hpos
  · rw [hzero, Nat.zero_mul] at hnearest
    rw [if_pos hzero]
    exact hnearest
  · have hmantissa : 0 < x.mantissa := by
      refine Nat.pos_of_ne_zero fun hzero => hpos.ne' (Decimal.value_eq_zero_iff.mp ?_)
      rw [h, Binary64.magnitude_eq, hzero, Nat.cast_zero, zero_mul]
    obtain ⟨hlow, hhigh⟩ := x.magnitude_bounds hmantissa
    have hvalue : (0 : ℚ) < x.magnitude := lt_of_lt_of_le (zpow_pos (by norm_num) _) hlow
    have hlog_low : -324 ≤ Int.log 10 x.magnitude := (Int.zpow_le_iff_le_log (by decide) hvalue).mp (by exact_mod_cast hlow)
    have hlog_high : Int.log 10 x.magnitude < 309 := (Int.lt_zpow_iff_log_lt (by decide) hvalue).mp (by exact_mod_cast hhigh)
    have hpoint := Decimal.point_eq_log hpos
    rw [h] at hpoint
    rw [if_neg hpos.ne', if_neg (by omega), if_neg (by omega)]
    exact hnearest

/-- A candidate is taken only when it reads back. -/
theorem ofDecimal_nearestWith {tie : Binary64.Tie} {count : ℕ} (h : Binary64.nearestWith tie x count = some d) :
    ofDecimal x.negative d = .finite x := by
  simp only [Binary64.nearestWith] at h
  split at h
  · cases h
  · next hlow _ =>
    obtain rfl := Option.some.inj h
    exact of_decide_eq_true hlow
  · next _ hhigh =>
    obtain rfl := Option.some.inj h
    exact of_decide_eq_true hhigh
  · next hlow hhigh =>
    -- Both read back, so it does not matter which of them the distance and the tie choose.
    have hchosen : ∀ c, some c = some d → decide (ofDecimal x.negative c = .finite x) = true →
        ofDecimal x.negative d = .finite x := by
      intro c hc hreads
      obtain rfl := Option.some.inj hc
      exact of_decide_eq_true hreads
    split at h
    · exact hchosen _ h hlow
    · split at h
      · exact hchosen _ h hhigh
      · split at h
        · exact hchosen _ h hhigh
        · split at h
          · exact hchosen _ h hlow
          · exact hchosen _ h hhigh

theorem ofDecimal_shortest (tie : Binary64.Tie) (x : Binary64) :
    ofDecimal x.negative (x.shortest tie) = .finite x := by
  rw [Binary64.shortest, ofDecimal_congr x.negative (Decimal.value_stripped _)]
  cases hfound : (List.range 17).findSome? fun i => Binary64.nearestWith tie x (i + 1) with
  | none => exact ofDecimal_of_value_eq x.value_exact
  | some d =>
    obtain ⟨i, -, hi⟩ := List.exists_of_findSome?_eq_some hfound
    exact ofDecimal_nearestWith hi

end Float64

end Audience
