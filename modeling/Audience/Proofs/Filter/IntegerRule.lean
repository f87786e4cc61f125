import Audience.Proofs.Filter.EqualityRule
import Audience.Proofs.Filter.Typing
import Audience.Proofs.Number.Exact
import Audience.Proofs.Number.Signed

/-!
What is bound on a column of integers. A filter binds the integer that its value stands for (`Json.Denotes`), and a value
that stands for none of 64 bits is an error (`integer_is_bound_exactly`). An integer past the signed range is read by way
of the nearest binary64 number, which is past the range as well, so it is no way round the error.
-/

namespace Audience

open Condition Text

/-- The value stands for the integer: as a number that is exactly it, or as a text of digits after an optional sign, with
blanks around. -/
inductive Json.Denotes : Json → Int → Prop
  | integer (z : Json.Integer) : Denotes (.int z) z.val
  | number (x : Binary64) (n : Int) (exactly : x.value = n) : Denotes (.float x) n
  | numeral (s : String) (plus : Bool) (num : Audience.Numeral) (spelled : trimChars s.toList = Reading.signed plus num) :
      Denotes (.str s) num.value
  | negativeNumeral (s : String) (num : Audience.Numeral) (spelled : trimChars s.toList = '-' :: num.digits) :
      Denotes (.str s) (-num.value)

variable {j : Json} {v : Value} {n : Int64} {k : Int} {x : Binary64}

theorem Json.denotes_int_iff {z : Json.Integer} : (Json.int z).Denotes k ↔ z.val = k := by
  constructor
  · intro h
    cases h
    rfl
  · rintro rfl
    exact .integer z

theorem Json.denotes_float_iff : (Json.float x).Denotes k ↔ x.value = k := by
  constructor
  · rintro ⟨⟩
    assumption
  · exact .number x k

theorem Json.denotes_str_iff {s : String} : (Json.str s).Denotes k ↔
    (∃ plus, ∃ num : Audience.Numeral, trimChars s.toList = Reading.signed plus num ∧ (num.value : Int) = k) ∨
      ∃ num : Audience.Numeral, trimChars s.toList = '-' :: num.digits ∧ -(num.value : Int) = k := by
  constructor
  · intro h
    cases h with
    | numeral _ plus num spelled => exact .inl ⟨plus, num, spelled, rfl⟩
    | negativeNumeral _ num spelled => exact .inr ⟨num, spelled, rfl⟩
  · rintro (⟨plus, num, spelled, rfl⟩ | ⟨num, spelled, rfl⟩)
    · exact .numeral s plus num spelled
    · exact .negativeNumeral s num spelled

/-! ### The integer that a value is or names -/

namespace Value

theorem inRange_toInt (n : Int64) : InRange n.toInt := ⟨n.le_toInt, n.toInt_lt⟩

/-- A value that is an integer exactly, or a text that is read as one. -/
def integer? : Value → Option Int64
  | string s => (Reading.int64 (trimChars s.toList)).toOption
  | v => v.toInt64?

theorem toInt64?_finite_eq_some_iff : (float64 (.finite x)).toInt64? = some n ↔ x.value = n.toInt := by
  rw [← Binary64.toInt?_eq_some_iff, toInt64?]
  cases hx : x.toInt? with
  | none => simp
  | some k =>
    simp only [Option.some.injEq]
    split
    · next hrange => rw [Option.some.injEq, Reading.toInt_ofInt_eq_iff hrange.1 hrange.2]
    · next hrange =>
      simp only [reduceCtorEq, false_iff]
      rintro rfl
      exact hrange (inRange_toInt n)

/-- The number next to an integer past the signed range is past it as well. -/
theorem toInt64?_ofInt_of_past (hlow : 0x8000000000000000 ≤ k) (hhigh : k < 0x10000000000000000) :
    (float64 (Float64.ofInt k)).toInt64? = none := by
  obtain ⟨x, hx, hvalue⟩ := Float64.exists_value_ofInt hlow hhigh
  have hbounds := (divNearestEven_bounds k.natAbs 2048).1
  rw [hx, Option.eq_none_iff_forall_not_mem]
  intro n hn
  rw [Option.mem_def, toInt64?_finite_eq_some_iff, hvalue] at hn
  have hn : ((2048 * divNearestEven k.natAbs 2048 : ℕ) : Int) = n.toInt := by exact_mod_cast hn
  have hlt := n.toInt_lt
  omega

theorem integer?_string_eq_some_iff {s : String} :
    (string s).integer? = some n ↔ Reading.int64 (trimChars s.toList) = .ok n := by
  rw [integer?]
  cases Reading.int64 (trimChars s.toList) <;> simp [Except.toOption]

theorem integer?_eq_some_iff (hv : ofJson? j = some v) : v.integer? = some n ↔ j.Denotes n.toInt := by
  have hn := inRange_toInt n
  cases j with
  | null | bool b =>
    obtain rfl := Option.some.inj hv
    constructor
    · rintro ⟨⟩
    · rintro ⟨⟩
  | int z =>
    obtain rfl := Option.some.inj hv
    rw [Json.denotes_int_iff]
    split
    · next hrange =>
      rw [← Reading.toInt_ofInt_eq_iff hrange.1 hrange.2]
      exact Option.some_inj
    · next hrange =>
      obtain ⟨hlow, hhigh⟩ := z.in_range
      unfold InRange at hrange hn
      rw [integer?, toInt64?_ofInt_of_past (by omega) hhigh]
      · simp only [reduceCtorEq, false_iff]
        omega
      · rintro s ⟨⟩
  | float x =>
    obtain rfl := Option.some.inj hv
    rw [Json.denotes_float_iff]
    exact toInt64?_finite_eq_some_iff
  | str s =>
    obtain rfl := Option.some.inj hv
    rw [integer?_string_eq_some_iff, Reading.int64_eq_ok_iff, Json.denotes_str_iff]
  | arr items | obj members => cases hv

end Value

namespace Condition

theorem integerOf_eq (v : Value) :
    integerOf v = match v.integer? with
      | some n => .ok n
      | none => .error (.invalidNumber v.text .int64) := by
  cases v <;> rfl

/-- A column of integers is compared with the integer that the value stands for. -/
theorem comparand_int64_eq_ok_iff : comparand .int64 j = .ok v ↔ ∃ n : Int64, v = .int64 n ∧ j.Denotes n.toInt := by
  cases hw : Value.ofJson? j with
  | none =>
    have hdenotes : ∀ k, ¬j.Denotes k := by
      rintro k ⟨⟩ <;> cases hw
    simp [comparand, hw, hdenotes]
  | some w =>
    simp only [comparand, hw, map_eq_ok_iff]
    constructor
    · rintro ⟨n, hn, rfl⟩
      refine ⟨n, rfl, (Value.integer?_eq_some_iff hw).mp ?_⟩
      rw [integerOf_eq] at hn
      split at hn
      · next m hm => rw [hm, Except.ok.inj hn]
      · cases hn
    · rintro ⟨n, rfl, hdenotes⟩
      refine ⟨n, ?_, rfl⟩
      rw [integerOf_eq, (Value.integer?_eq_some_iff hw).mpr hdenotes]

theorem comparand_int64_of_not_denotes (hv : Value.ofJson? j = some v) (h : ∀ n : Int64, ¬j.Denotes n.toInt) :
    comparand .int64 j = .error (.invalidNumber v.text .int64) := by
  have hnone : v.integer? = none :=
    Option.eq_none_iff_forall_not_mem.mpr fun n hn => h n ((Value.integer?_eq_some_iff hv).mp hn)
  simp only [comparand, hv, integerOf_eq, hnone]
  rfl

end Condition

/-- A column of integers is compared with the integer that the value stands for, and is bound to no other. A scalar that
stands for none of 64 bits is no number for the column, and an array or an object cannot be compared. -/
theorem integer_is_bound_exactly (columns : Columns) (campaign : CampaignKind) (fs : List FilterSpec) {i : Nat}
    {f : FilterSpec} (hf : fs[i]? = some f) (hrule : ComparedByValue columns campaign f.column .int64)
    (chosen : f.isWildcard = false) :
    (∀ compiled, compile columns fs campaign = .ok compiled →
      (∃ n : Int64, compiled.params.get? (paramName i) = some (.int64 n)) ∧
        ∀ n : Int64, compiled.params.get? (paramName i) = some (.int64 n) ↔ f.value.Denotes n.toInt) ∧
    ((∀ j g, j ≠ i → fs[j]? = some g → ¬FailsAlone columns campaign g) →
      ((∃ compiled, compile columns fs campaign = .ok compiled) ↔ ∃ n : Int64, f.value.Denotes n.toInt) ∧
      (f.value.IsScalar → (∀ n : Int64, ¬f.value.Denotes n.toInt) → ∃ v, Value.ofJson? f.value = some v ∧
        compile columns fs campaign = .error ⟨i, f.column, .invalidNumber v.text .int64⟩) ∧
      (¬f.value.IsScalar → compile columns fs campaign = .error ⟨i, f.column, .unsupportedValue⟩)) := by
  constructor
  · intro compiled hcompile
    obtain ⟨v, hv, hbound⟩ := exists_comparand_of_compile hcompile hf hrule chosen
    obtain ⟨m, rfl, hdenotes⟩ := comparand_int64_eq_ok_iff.mp hv
    refine ⟨⟨m, hbound⟩, fun n => ?_⟩
    constructor
    · intro hn
      obtain rfl : m = n := Value.int64.inj (Option.some.inj (hbound.symm.trans hn))
      exact hdenotes
    · intro hn
      have hsame := hv.symm.trans (comparand_int64_eq_ok_iff.mpr ⟨n, rfl, hn⟩)
      rw [hbound, Except.ok.inj hsame]
  · intro hothers
    refine ⟨⟨?_, ?_⟩, ?_, ?_⟩
    · rintro ⟨compiled, hcompile⟩
      obtain ⟨v, hv, -⟩ := exists_comparand_of_compile hcompile hf hrule chosen
      obtain ⟨n, -, hdenotes⟩ := comparand_int64_eq_ok_iff.mp hv
      exact ⟨n, hdenotes⟩
    · rintro ⟨n, hdenotes⟩
      exact compile_of_comparand hf hrule chosen hothers (comparand_int64_eq_ok_iff.mpr ⟨n, rfl, hdenotes⟩)
    · intro hscalar hnone
      obtain ⟨v, hv⟩ := isScalar_iff.mp hscalar
      exact ⟨v, hv, compile_of_no_comparand hf hrule chosen hothers (comparand_int64_of_not_denotes hv hnone)⟩
    · intro hscalar
      exact compile_of_no_comparand hf hrule chosen hothers (comparand_of_not_isScalar hscalar)

/-- The greatest integer is bound as a text and the least one as a number with a fraction of zero. The next one above is an
error, though the number next to it is known. -/
theorem integer_is_bound_exactly_at_the_ends :
    (∀ compiled, compile (.ofList [("edad", .int64)])
        [⟨"edad", "", .null⟩, ⟨"edad", "", .str "\u3000+09223372036854775807 "⟩] .unspecified = .ok compiled →
      compiled.params.get? (paramName 1) = some (.int64 9223372036854775807)) ∧
    (∃ compiled, compile (.ofList [("edad", .int64)]) [⟨"edad", "", .float ⟨true, 2 ^ 52, 11, by decide⟩⟩] .unspecified =
        .ok compiled) ∧
    (∃ v, Value.ofJson? (.int ⟨9223372036854775808, by decide⟩) = some v ∧
      compile (.ofList [("edad", .int64)]) [⟨"edad", "", .int ⟨9223372036854775808, by decide⟩⟩] .unspecified =
        .error ⟨0, "edad", .invalidNumber v.text .int64⟩) ∧
    compile (.ofList [("edad", .int64)]) [⟨"edad", "", .arr [.int ⟨30, by decide⟩]⟩] .unspecified =
      .error ⟨0, "edad", .unsupportedValue⟩ := by
  have hrule : ComparedByValue (.ofList [("edad", .int64)]) .unspecified "edad" .int64 := ⟨rfl, rfl, rfl⟩
  have hothers : ∀ {f : FilterSpec} (j : Nat) (g : FilterSpec), j ≠ 0 → [f][j]? = some g →
      ¬FailsAlone (.ofList [("edad", .int64)]) .unspecified g := by
    rintro f (_ | j) g hj hg
    · exact absurd rfl hj
    · cases hg
  refine ⟨?_, ?_, ?_, ?_⟩
  · intro compiled hcompile
    have hdenotes : (Json.str "\u3000+09223372036854775807 ").Denotes (Int64.toInt 9223372036854775807) :=
      Json.denotes_str_iff.mpr (.inl ⟨true, ⟨"09223372036854775807".toList, by decide, List.all_eq_true.mp rfl⟩,
        by decide, by decide⟩)
    exact (((integer_is_bound_exactly _ _ _ rfl hrule rfl).1 compiled hcompile).2 _).mpr hdenotes
  · refine ((integer_is_bound_exactly _ _ _ rfl hrule rfl).2 hothers).1.mpr ⟨Int64.minValue, .number _ _ ?_⟩
    rw [Binary64.value_eq_intCast_iff]
    decide
  · refine ((integer_is_bound_exactly _ _ [⟨"edad", "", .int ⟨9223372036854775808, by decide⟩⟩] (i := 0) rfl hrule rfl).2
      hothers).2.1 trivial fun n hn => ?_
    have hlt := n.toInt_lt
    rw [← Json.denotes_int_iff.mp hn] at hlt
    exact absurd hlt (by decide)
  · exact ((integer_is_bound_exactly _ _ [⟨"edad", "", .arr [.int ⟨30, by decide⟩]⟩] (i := 0) rfl hrule rfl).2
      hothers).2.2 id

end Audience
