import Audience.Proofs.Filter.EqualityRule
import Audience.Proofs.Number.Exact

/-!
What is bound on a column that is neither of integers nor of binary64 numbers. A scalar is bound as it is, but an integer
past the signed range goes to the nearest multiple of 2048. So two scalars that say different things are told apart by
what is bound for them, unless one is such an integer and the rounding takes it to the other
(`bound_scalars_differ_unless_rounded`).
-/

namespace Audience

open Condition

/-- What a scalar says, a number by its exact value. -/
inductive Content where
  | null
  | bool (b : Bool)
  | number (q : ℚ)
  | text (s : String)
deriving DecidableEq

def Json.content? : Json → Option Content
  | .null => some .null
  | .bool b => some (.bool b)
  | .int z => some (.number z.val)
  | .float x => some (.number x.value)
  | .str s => some (.text s)
  | .arr _ => none
  | .obj _ => none

def Value.content? : Value → Option Content
  | .null => some .null
  | .bool b => some (.bool b)
  | .int64 n => some (.number n.toInt)
  | .float64 (.finite x) => some (.number x.value)
  | .float64 _ => none
  | .string s => some (.text s)

/-- The integer that is bound: past the signed range the nearest multiple of 2048, a half going to the even one. -/
def Json.Integer.rounded (z : Json.Integer) : Int :=
  if z.val < 2 ^ 63 then z.val else (2048 * divNearestEven z.val.natAbs 2048 : ℕ)

/-- What is said by the value that is bound for a JSON scalar. -/
def Json.rounded? : Json → Option Content
  | .int z => some (.number z.rounded)
  | j => j.content?

/-- The value is an integer past the signed range that is no multiple of 2048. -/
def Json.LosesDigits (j : Json) : Prop := ∃ z : Json.Integer, j = .int z ∧ 2 ^ 63 ≤ z.val ∧ ¬2048 ∣ z.val

variable {j k : Json} {v w : Value} {q : ℚ}

/-! ### Rounding -/

theorem Json.Integer.rounded_eq_iff {z : Json.Integer} : z.rounded = z.val ↔ 2 ^ 63 ≤ z.val → 2048 ∣ z.val := by
  unfold rounded
  split
  · next hlt => exact ⟨fun _ hle => absurd hlt (not_lt.mpr hle), fun _ => rfl⟩
  · next hle =>
    have habs : (z.val.natAbs : ℤ) = z.val := Int.natAbs_of_nonneg (by omega)
    have hmul : 2048 * divNearestEven z.val.natAbs 2048 = z.val.natAbs ↔ 2048 ∣ z.val.natAbs := mul_divNearestEven_eq_iff
    omega

theorem Json.rounded?_eq_content?_iff : j.rounded? = j.content? ↔ ¬j.LosesDigits := by
  cases j with
  | int z =>
    have hcontent : (Json.int z).rounded? = (Json.int z).content? ↔ z.rounded = z.val := by
      simp [rounded?, content?]
    rw [hcontent, Json.Integer.rounded_eq_iff]
    simp [LosesDigits]
  | _ => simp [rounded?, LosesDigits]

theorem Json.LosesDigits.exists_rounded (h : j.LosesDigits) : ∃ q : ℚ, 2 ^ 63 ≤ q ∧ j.rounded? = some (.number q) := by
  obtain ⟨z, rfl, hlow, -⟩ := h
  refine ⟨z.rounded, ?_, rfl⟩
  have hbounds := (divNearestEven_bounds z.val.natAbs 2048).1
  have hle : 2 ^ 63 ≤ z.rounded := by
    unfold Json.Integer.rounded
    omega
  exact_mod_cast hle

/-! ### What bound values say -/

/-- A scalar is bound as a value that says the same, but for the rounding. -/
theorem content?_ofJson? (hv : Value.ofJson? j = some v) : v.content? = j.rounded? := by
  cases j with
  | int z =>
    obtain rfl := Option.some.inj hv
    obtain ⟨hlow, hhigh⟩ := z.in_range
    by_cases hrange : Value.InRange z.val
    · have hlt : z.val < 2 ^ 63 := hrange.2
      rw [if_pos hrange, Value.content?, Int64.toInt_ofInt_of_le hrange.1 hrange.2, Json.rounded?, Json.Integer.rounded,
        if_pos hlt]
    · have hpast : ¬z.val < 2 ^ 63 := fun hlt => hrange ⟨hlow, hlt⟩
      obtain ⟨x, hx, hvalue⟩ := Float64.exists_value_ofInt (n := z.val) (not_lt.mp hpast) hhigh
      rw [if_neg hrange, hx, Value.content?, hvalue, Json.rounded?, Json.Integer.rounded, if_neg hpast, Int.cast_natCast]
  | null | bool b | float x | str s =>
    obtain rfl := Option.some.inj hv
    rfl
  | arr items | obj members => cases hv

/-- A number past the signed range is bound in one way. -/
theorem exists_float64_of_content? (hq : 2 ^ 63 ≤ q) (hv : v.content? = some (.number q)) :
    ∃ x, v = .float64 (.finite x) ∧ x.value = q := by
  cases v with
  | null | bool b | string s => cases hv
  | int64 n =>
    have hn : (n.toInt : ℚ) = q := Content.number.inj (Option.some.inj hv)
    have hle : 2 ^ 63 ≤ n.toInt := by exact_mod_cast hn ▸ hq
    exact absurd n.toInt_lt (not_lt.mpr hle)
  | float64 x =>
    cases x with
    | finite x => exact ⟨x, rfl, Content.number.inj (Option.some.inj hv)⟩
    | nan | infinite b => cases hv

theorem eq_of_content?_eq (hq : 2 ^ 63 ≤ q) (hv : v.content? = some (.number q)) (hw : w.content? = some (.number q)) :
    v = w := by
  obtain ⟨x, rfl, hx⟩ := exists_float64_of_content? hq hv
  obtain ⟨y, rfl, hy⟩ := exists_float64_of_content? hq hw
  have hpos : 0 < x.value := by
    rw [hx]
    linarith
  rw [Binary64.eq_of_value_eq (hx.trans hy.symm) hpos]

/-- Scalars that say different things are bound alike when the rounding makes them say the same. -/
theorem ofJson?_eq_iff (hv : Value.ofJson? j = some v) (hw : Value.ofJson? k = some w) (hdiffer : j.content? ≠ k.content?) :
    v = w ↔ j.rounded? = k.rounded? := by
  constructor
  · rintro rfl
    rw [← content?_ofJson? hv, ← content?_ofJson? hw]
  · intro hrounded
    have hloses : j.LosesDigits ∨ k.LosesDigits := by
      by_contra hneither
      obtain ⟨hj, hk⟩ := not_or.mp hneither
      rw [Json.rounded?_eq_content?_iff.mpr hj, Json.rounded?_eq_content?_iff.mpr hk] at hrounded
      exact hdiffer hrounded
    obtain ⟨q, hq, hnumber⟩ : ∃ q : ℚ, 2 ^ 63 ≤ q ∧ j.rounded? = some (.number q) := by
      rcases hloses with hj | hk
      · exact hj.exists_rounded
      · exact hrounded ▸ hk.exists_rounded
    refine eq_of_content?_eq hq ((content?_ofJson? hv).trans hnumber) ?_
    rw [content?_ofJson? hw, ← hrounded, hnumber]

/-! ### Filters under the rule -/

/-- The filter compares its column with a scalar, and the type of the column does not read the scalar as a number. -/
structure ComparedAsGiven (columns : Columns) (campaign : CampaignKind) (f : FilterSpec) : Prop where
  column : ∃ type, ComparedByValue columns campaign f.column type ∧ type ≠ .int64 ∧ type ≠ .float64
  chosen : f.isWildcard = false
  scalar : f.value.IsScalar

/-- Wherever the filter stands among filters without errors, it binds the value. -/
def Binds (columns : Columns) (campaign : CampaignKind) (f : FilterSpec) (v : Value) : Prop :=
  ∀ (fs : List FilterSpec) (i : Nat), fs[i]? = some f →
    (∀ j g, j ≠ i → fs[j]? = some g → ¬FailsAlone columns campaign g) →
    ∃ compiled, compile columns fs campaign = .ok compiled ∧ compiled.params.get? (paramName i) = some v

variable {columns : Columns} {campaign : CampaignKind} {f : FilterSpec}

theorem comparand_of_ofJson? {type : ColumnType} (hint : type ≠ .int64) (hfloat : type ≠ .float64)
    (hv : Value.ofJson? j = some v) : comparand type j = .ok v := by
  unfold comparand
  rw [hv]
  cases type with
  | int64 => exact absurd rfl hint
  | float64 => exact absurd rfl hfloat
  | _ => rfl

theorem ComparedAsGiven.exists_binds (h : ComparedAsGiven columns campaign f) :
    ∃ v, Value.ofJson? f.value = some v ∧ Binds columns campaign f v := by
  obtain ⟨⟨type, hrule, hint, hfloat⟩, chosen, hscalar⟩ := h
  obtain ⟨v, hv⟩ := isScalar_iff.mp hscalar
  have hcomparand := comparand_of_ofJson? hint hfloat hv
  refine ⟨v, hv, fun fs i hf hothers => ?_⟩
  obtain ⟨compiled, hcompile⟩ := compile_of_comparand hf hrule chosen hothers hcomparand
  obtain ⟨w, hw, hbound⟩ := exists_comparand_of_compile hcompile hf hrule chosen
  obtain rfl := Except.ok.inj (hcomparand.symm.trans hw)
  exact ⟨compiled, hcompile, hbound⟩

/-- Scalars on columns that do not read them as numbers are always bound, and what is bound says what the scalar says
unless the scalar is an integer past the signed range that is no multiple of 2048: then it says the nearest one. For two
scalars that say different things the bound values are the same exactly when the rounding takes them to one number. -/
theorem bound_scalars_differ_unless_rounded (columns : Columns) (campaign : CampaignKind) {f g : FilterSpec}
    (hf : ComparedAsGiven columns campaign f) (hg : ComparedAsGiven columns campaign g) :
    ∃ v w, Binds columns campaign f v ∧ Binds columns campaign g w ∧
      v.content? = f.value.rounded? ∧ w.content? = g.value.rounded? ∧
      (v.content? = f.value.content? ↔ ¬f.value.LosesDigits) ∧
      (f.value.content? ≠ g.value.content? → (v = w ↔ f.value.rounded? = g.value.rounded?)) := by
  obtain ⟨v, hv, hfbinds⟩ := hf.exists_binds
  obtain ⟨w, hw, hgbinds⟩ := hg.exists_binds
  refine ⟨v, w, hfbinds, hgbinds, content?_ofJson? hv, content?_ofJson? hw, ?_, ofJson?_eq_iff hv hw⟩
  rw [content?_ofJson? hv]
  exact Json.rounded?_eq_content?_iff

/-- The first integer past the signed range is bound as it is, and the second one as the first. -/
theorem bound_scalars_differ_unless_rounded_past_signed_range :
    ∃ v w, Binds (.ofList [("saldo", .numeric)]) .unspecified ⟨"saldo", "", .int ⟨9223372036854775808, by decide⟩⟩ v ∧
      Binds (.ofList [("saldo", .numeric)]) .unspecified ⟨"saldo", "", .int ⟨9223372036854775809, by decide⟩⟩ w ∧
      (Json.int ⟨9223372036854775808, by decide⟩).content? ≠ (Json.int ⟨9223372036854775809, by decide⟩).content? ∧
      v.content? = some (.number 9223372036854775808) ∧ v = w := by
  have hrule : ∃ type, ComparedByValue (.ofList [("saldo", .numeric)]) .unspecified "saldo" type ∧ type ≠ .int64 ∧
      type ≠ .float64 := ⟨.numeric, ⟨rfl, rfl, rfl⟩, nofun, nofun⟩
  have hdiffer : (Json.int ⟨9223372036854775808, by decide⟩).content? ≠
      (Json.int ⟨9223372036854775809, by decide⟩).content? := by
    simp [Json.content?]
  obtain ⟨v, w, hf, hg, hv, -, -, heq⟩ := bound_scalars_differ_unless_rounded _ _
    (f := ⟨"saldo", "", .int ⟨9223372036854775808, by decide⟩⟩) (g := ⟨"saldo", "", .int ⟨9223372036854775809, by decide⟩⟩)
    ⟨hrule, rfl, trivial⟩ ⟨hrule, rfl, trivial⟩
  have hrounded : (Json.int ⟨9223372036854775808, by decide⟩).rounded? = some (.number 9223372036854775808) := by
    decide +kernel
  refine ⟨v, w, hf, hg, hdiffer, hv.trans hrounded, (heq hdiffer).mpr ?_⟩
  rw [hrounded]
  decide +kernel

/-- Two integers that differ by one are bound as one value. -/
theorem neighbouring_integers_are_bound_alike :
    ∃ compiled v, compile (.ofList [("saldo", .numeric)])
        [⟨"saldo", "", .int ⟨9223372036854775808, by decide⟩⟩, ⟨"saldo", "", .int ⟨9223372036854775809, by decide⟩⟩]
        .unspecified = .ok compiled ∧
      compiled.params.get? (paramName 0) = some v ∧ compiled.params.get? (paramName 1) = some v ∧
      v.content? = (Json.int ⟨9223372036854775808, by decide⟩).content? ∧
      (Json.int ⟨9223372036854775808, by decide⟩).content? ≠ (Json.int ⟨9223372036854775809, by decide⟩).content? := by
  refine ⟨_, .float64 (.finite ⟨false, 2 ^ 52, 11, by decide⟩), rfl, ?_, ?_, ?_, ?_⟩
  · decide +kernel
  · decide +kernel
  · decide +kernel
  · simp [Json.content?]

end Audience
