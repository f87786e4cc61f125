import Audience.Number.Reading
import Audience.Proofs.Number.ReadBack
import Mathlib.Data.List.TakeDrop

/-!
The text of a number reads back as the number (`Reading.float64_jsonText`), so different numbers have different texts.
A layout may write the digits of a decimal otherwise than it holds them, with zeros behind them; what is read from it
has the same value (`Reading.decimal_positional`, `Reading.decimal_scientific`). Numbers are written with few
characters, and a binary64 number with a mark that no integer has (`Binary64.mark_mem_jsonText`).
-/

namespace Audience

namespace Reading

variable {p : Char → Bool} {cs rest whole fraction : List Char}

/-- A scan of the characters that pass the test goes no further into the text. -/
def Stops (p : Char → Bool) (rest : List Char) : Prop := ∀ c ∈ rest.head?, p c = false

theorem stops_nil : Stops p [] := by
  intro c hc
  cases hc

theorem stops_cons {c : Char} (h : p c = false) : Stops p (c :: rest) := by
  intro d hd
  obtain rfl := Option.some.inj hd
  exact h

theorem span_append (hcs : ∀ c ∈ cs, p c = true) (hrest : Stops p rest) : (cs ++ rest).span p = (cs, rest) := by
  have hstop : rest.takeWhile p = [] ∧ rest.dropWhile p = rest := by
    cases rest with
    | nil => exact ⟨rfl, rfl⟩
    | cons c rest =>
      have hc := hrest c rfl
      exact ⟨List.takeWhile_cons_of_neg (by simp [hc]), List.dropWhile_cons_of_neg (by simp [hc])⟩
  rw [List.span_eq_takeWhile_dropWhile, List.takeWhile_append_of_pos hcs, List.dropWhile_append_of_pos hcs, hstop.1,
    hstop.2, List.append_nil]

/-! ### Digits -/

theorem isDigit_of_mem_toDigits {n : ℕ} {c : Char} (h : c ∈ Nat.toDigits 10 n) : c.isDigit = true :=
  Nat.isDigit_of_mem_toDigits (by decide) (by decide) h

theorem ofDigits_toDigits (n : ℕ) : ofDigits (Nat.toDigits 10 n) = n := Nat.ofDigitChars_ten_toDigits

theorem ofDigits_append (cs ds : List Char) : ofDigits (cs ++ ds) = ofDigits cs * 10 ^ ds.length + ofDigits ds := by
  rw [ofDigits, Nat.ofDigitChars_append, Nat.ofDigitChars_eq_ofDigitChars_zero, Nat.mul_comm]
  rfl

theorem ofDigits_replicate_zero (n : ℕ) : ofDigits (List.replicate n '0') = 0 := by
  rw [ofDigits, Nat.ofDigitChars_replicate_zero, Nat.mul_zero]

theorem isDigit_of_mem_zeros {k : ℤ} {c : Char} (h : c ∈ Decimal.zeros k) : c.isDigit = true := by
  obtain rfl := List.eq_of_mem_replicate h
  rfl

/-! ### The parts of a decimal -/

theorem exponent_scientific (k : ℤ) :
    exponent ('e' :: (if k < 0 then '-' else '+') :: Nat.toDigits 10 k.natAbs) = some k := by
  have hdigits : Nat.toDigits 10 k.natAbs ≠ [] ∧ (Nat.toDigits 10 k.natAbs).all Char.isDigit = true :=
    ⟨Nat.toDigits_ne_nil, List.all_eq_true.mpr fun c => isDigit_of_mem_toDigits⟩
  by_cases hk : k < 0
  · have habs : -((k.natAbs : ℕ) : ℤ) = k := by omega
    simpa [exponent, hk, hdigits, ofDigits_toDigits] using habs
  · have habs : ((k.natAbs : ℕ) : ℤ) = k := by omega
    simpa [exponent, hk, hdigits, ofDigits_toDigits] using habs

/-- A number without a point. -/
theorem decimal_without_point (hwhole : ∀ c ∈ whole, c.isDigit = true) (hrest : Stops Char.isDigit rest)
    (hpoint : rest.head? ≠ some '.') :
    decimal (whole ++ rest) = if whole = [] then none else (exponent rest).map fun k => ⟨ofDigits whole, k⟩ := by
  have hspan : digitSpan (whole ++ rest) = (whole, rest) := span_append hwhole hrest
  simp only [decimal, hspan]
  split
  · exact absurd rfl hpoint
  · simp

/-- A number with a point among or beside digits. -/
theorem decimal_with_point (hwhole : ∀ c ∈ whole, c.isDigit = true) (hfraction : ∀ c ∈ fraction, c.isDigit = true)
    (hrest : Stops Char.isDigit rest) :
    decimal (whole ++ '.' :: (fraction ++ rest)) =
      if whole ++ fraction = [] then none
      else (exponent rest).map fun k => ⟨ofDigits (whole ++ fraction), k - fraction.length⟩ := by
  have hspan : digitSpan (whole ++ '.' :: (fraction ++ rest)) = (whole, '.' :: (fraction ++ rest)) :=
    span_append hwhole (stops_cons rfl)
  have hmore : digitSpan (fraction ++ rest) = (fraction, rest) := span_append hfraction hrest
  simp [decimal, hspan, hmore]

theorem decimal_whole (hwhole : ∀ c ∈ whole, c.isDigit = true) (hne : whole ≠ []) (hrest : Stops Char.isDigit rest)
    (hpoint : rest.head? ≠ some '.') {k : ℤ} (hexponent : exponent rest = some k) :
    decimal (whole ++ rest) = some ⟨ofDigits whole, k⟩ := by
  rw [decimal_without_point hwhole hrest hpoint, if_neg hne, hexponent, Option.map_some]

theorem decimal_point (hwhole : ∀ c ∈ whole, c.isDigit = true) (hfraction : ∀ c ∈ fraction, c.isDigit = true)
    (hne : whole ≠ []) (hrest : Stops Char.isDigit rest) {k : ℤ} (hexponent : exponent rest = some k) :
    decimal (whole ++ '.' :: (fraction ++ rest)) = some ⟨ofDigits (whole ++ fraction), k - fraction.length⟩ := by
  rw [decimal_with_point hwhole hfraction hrest, if_neg (List.append_ne_nil_of_left_ne_nil hne _), hexponent,
    Option.map_some]

/-! ### Layouts -/

variable {d : Decimal}

/-- A whole number has zeros for its exponent, and maybe one more behind a point. -/
theorem decimal_integral (hexponent : 0 ≤ d.exponent) {ending : List Char} (hending : ending = [] ∨ ending = ['.', '0']) :
    ∃ d', decimal (Nat.toDigits 10 d.digits ++ Decimal.zeros d.exponent ++ ending) = some d' ∧ d'.value = d.value := by
  have hall : ∀ c ∈ Nat.toDigits 10 d.digits ++ Decimal.zeros d.exponent, c.isDigit = true := by
    intro c hc
    rcases List.mem_append.mp hc with hc | hc
    · exact isDigit_of_mem_toDigits hc
    · exact isDigit_of_mem_zeros hc
  have hne : Nat.toDigits 10 d.digits ++ Decimal.zeros d.exponent ≠ [] :=
    List.append_ne_nil_of_left_ne_nil Nat.toDigits_ne_nil _
  have hdigits : ofDigits (Nat.toDigits 10 d.digits ++ Decimal.zeros d.exponent) = d.digits * 10 ^ d.exponent.toNat := by
    rw [ofDigits_append, ofDigits_toDigits, Decimal.zeros, ofDigits_replicate_zero, List.length_replicate, Nat.add_zero]
  have hvalue : d.value = (d.digits * 10 ^ d.exponent.toNat : ℕ) := by
    rw [Decimal.value, ← Int.toNat_of_nonneg hexponent, zpow_natCast, Int.toNat_natCast]
    push_cast
    rfl
  rcases hending with rfl | rfl
  · refine ⟨_, decimal_whole hall hne stops_nil (by simp) rfl, ?_⟩
    rw [hvalue, hdigits, Decimal.value, zpow_zero, mul_one]
  · have hfraction : ∀ c ∈ ['0'], c.isDigit = true := List.forall_mem_singleton.mpr rfl
    refine ⟨_, decimal_point hall hfraction hne stops_nil rfl, ?_⟩
    have hzero : ofDigits ['0'] = 0 := rfl
    rw [hvalue, ofDigits_append, hdigits, hzero, Decimal.value]
    simp

/-- The point stands among the digits. -/
theorem decimal_mixed (hpoint : 0 < d.point) (hexponent : d.exponent < 0) :
    decimal ((Nat.toDigits 10 d.digits).take d.point.toNat ++ '.' :: (Nat.toDigits 10 d.digits).drop d.point.toNat) =
      some d := by
  have hwhole : ∀ c ∈ (Nat.toDigits 10 d.digits).take d.point.toNat, c.isDigit = true :=
    fun c hc => isDigit_of_mem_toDigits (List.mem_of_mem_take hc)
  have hfraction : ∀ c ∈ (Nat.toDigits 10 d.digits).drop d.point.toNat, c.isDigit = true :=
    fun c hc => isDigit_of_mem_toDigits (List.mem_of_mem_drop hc)
  have hne : (Nat.toDigits 10 d.digits).take d.point.toNat ≠ [] := by
    simp [Nat.toDigits_ne_nil, hpoint]
  have hlength : (0 : ℤ) - ((Nat.toDigits 10 d.digits).drop d.point.toNat).length = d.exponent := by
    rw [List.length_drop]
    unfold Decimal.point Decimal.digitCount at hpoint ⊢
    omega
  have hread := decimal_point hwhole hfraction hne stops_nil rfl
  rwa [List.append_nil, List.take_append_drop, ofDigits_toDigits, hlength] at hread

/-- Zeros stand between the point and the digits. -/
theorem decimal_below_one (hpoint : d.point ≤ 0) :
    decimal ('0' :: '.' :: (Decimal.zeros (-d.point) ++ Nat.toDigits 10 d.digits)) = some d := by
  have hwhole : ∀ c ∈ ['0'], c.isDigit = true := List.forall_mem_singleton.mpr rfl
  have hfraction : ∀ c ∈ Decimal.zeros (-d.point) ++ Nat.toDigits 10 d.digits, c.isDigit = true := by
    intro c hc
    rcases List.mem_append.mp hc with hc | hc
    · exact isDigit_of_mem_zeros hc
    · exact isDigit_of_mem_toDigits hc
  have hdigits : ofDigits (['0'] ++ (Decimal.zeros (-d.point) ++ Nat.toDigits 10 d.digits)) = d.digits := by
    have hzero : ofDigits ['0'] = 0 := rfl
    rw [ofDigits_append, ofDigits_append, hzero, Decimal.zeros, ofDigits_replicate_zero, ofDigits_toDigits]
    omega
  have hlength : (0 : ℤ) - (Decimal.zeros (-d.point) ++ Nat.toDigits 10 d.digits).length = d.exponent := by
    rw [List.length_append, Decimal.zeros, List.length_replicate]
    unfold Decimal.point Decimal.digitCount at *
    omega
  have hread := decimal_point hwhole hfraction (by simp) stops_nil rfl
  rwa [List.append_nil, hdigits, hlength] at hread

/-- Positional notation shows the value, with or without a fraction behind a whole number. -/
theorem decimal_positional (d : Decimal) {ending : String} (hending : ending = "" ∨ ending = ".0") :
    ∃ d', decimal (d.positional ending) = some d' ∧ d'.value = d.value := by
  simp only [Decimal.positional]
  split
  · next hexponent =>
    refine decimal_integral hexponent (hending.imp ?_ ?_)
    · rintro rfl
      rfl
    · rintro rfl
      rfl
  · next hexponent =>
    split
    · next hpoint => exact ⟨d, decimal_mixed hpoint (Int.not_le.mp hexponent), rfl⟩
    · next hpoint => exact ⟨d, decimal_below_one (Int.not_lt.mp hpoint), rfl⟩

/-- Scientific notation shows the decimal as it is. -/
theorem decimal_scientific (d : Decimal) : decimal d.scientific = some d := by
  have hstops : ∀ cs, Stops Char.isDigit ('e' :: cs) := fun cs => stops_cons rfl
  have hall : ∀ c ∈ Nat.toDigits 10 d.digits, c.isDigit = true := fun c => isDigit_of_mem_toDigits
  have hdigits : ofDigits (Nat.toDigits 10 d.digits) = d.digits := ofDigits_toDigits d.digits
  have hpoint : d.point = d.exponent + (Nat.toDigits 10 d.digits).length := rfl
  unfold Decimal.scientific
  rcases hsplit : Nat.toDigits 10 d.digits with _ | ⟨lead, _ | ⟨next, more⟩⟩
  · exact absurd hsplit Nat.toDigits_ne_nil
  · rw [hsplit] at hall hdigits hpoint
    have hread := decimal_whole hall (by simp) (hstops _) (by simp) (exponent_scientific (d.point - 1))
    have hexponent : d.point - 1 = d.exponent := by
      rw [hpoint, List.length_singleton]
      omega
    exact hread.trans (by rw [hdigits, hexponent])
  · rw [hsplit] at hall hdigits hpoint
    obtain ⟨hlead, hmore⟩ := List.forall_mem_cons.mp hall
    have hread := decimal_point (List.forall_mem_singleton.mpr hlead) hmore (by simp) (hstops _)
      (exponent_scientific (d.point - 1))
    have hexponent : d.point - 1 - ((next :: more).length : ℤ) = d.exponent := by
      rw [hpoint, List.length_cons]
      omega
    exact hread.trans (by rw [List.singleton_append, hdigits, hexponent])

/-! ### Binary64 numbers -/

variable {x : Binary64} {body : List Char}

theorem decimal_sign (cs : List Char) : decimal ('-' :: cs) = none ∧ decimal ('+' :: cs) = none := by
  constructor <;> simp [decimal, digitSpan, List.span_eq_takeWhile_dropWhile]

/-- The sign is read apart from the number behind it. -/
theorem float64_signed (hread : decimal body = some d) :
    float64 (x.signChars ++ body) = .ok (Float64.ofDecimal x.negative d) := by
  unfold Binary64.signChars
  split
  · next hnegative => simp [float64, hread, hnegative]
  · next hnegative =>
    have hnegative : x.negative = false := by simpa using hnegative
    rcases body with _ | ⟨c, cs⟩
    · cases hread
    · have hminus : c ≠ '-' := by
        rintro rfl
        cases (decimal_sign cs).1.symm.trans hread
      have hplus : c ≠ '+' := by
        rintro rfl
        cases (decimal_sign cs).2.symm.trans hread
      simp [float64, hminus, hplus, hread, hnegative]

/-- Digits with the value of the shortest decimal, laid out in any way, are read as the number. -/
theorem float64_shortest {tie : Binary64.Tie} (hread : decimal body = some d) (hvalue : d.value = (x.shortest tie).value) :
    float64 (x.signChars ++ body) = .ok (.finite x) := by
  rw [float64_signed hread, Float64.ofDecimal_congr x.negative hvalue, Float64.ofDecimal_shortest]

theorem float64_zero (hzero : x.mantissa = 0) (hread : decimal body = some d) (hdigits : d.digits = 0) :
    float64 (x.signChars ++ body) = .ok (.finite x) := by
  rw [float64_signed hread, Float64.ofDecimal_eq, if_pos hdigits, ← x.eq_zero hzero]

/-- The text of a number reads back as the number. -/
theorem float64_jsonText (x : Binary64) : float64 x.jsonText.toList = .ok (.finite x) := by
  unfold Binary64.jsonText
  rw [String.toList_ofList]
  split
  · next hzero =>
    have hbody : decimal ['0', '.', '0'] = some ⟨0, -1⟩ := rfl
    exact float64_zero hzero hbody rfl
  · split
    · obtain ⟨d', hbody, hvalue⟩ := decimal_positional (x.shortest .even) (.inr rfl)
      exact float64_shortest hbody hvalue
    · exact float64_shortest (decimal_scientific _) rfl

theorem float64_positionalText (x : Binary64) : float64 x.positionalText.toList = .ok (.finite x) := by
  unfold Binary64.positionalText
  rw [String.toList_ofList]
  split
  · next hzero =>
    have hbody : decimal ['0'] = some ⟨0, 0⟩ := rfl
    exact float64_zero hzero hbody rfl
  · obtain ⟨d', hbody, hvalue⟩ := decimal_positional (x.shortest .up) (.inl rfl)
    exact float64_shortest hbody hvalue

/-- The names of the numbers that are not finite read back as well. -/
theorem float64_text (x : Float64) : float64 x.text.toList = .ok x := by
  cases x with
  | nan => decide
  | infinite negative => cases negative <;> decide
  | finite x => exact float64_positionalText x

end Reading

namespace Binary64

theorem jsonText_injective : Function.Injective jsonText := by
  intro x y h
  have hread := Reading.float64_jsonText x
  rw [h, Reading.float64_jsonText y] at hread
  cases hread
  rfl

end Binary64

/-! ### The characters of a number -/

/-- A character that numbers are written with. -/
def isNumeralChar (c : Char) : Bool := c.isDigit || c ∈ ['-', '+', '.', 'e']

theorem isNumeralChar_of_mem_toDigits {n : ℕ} {c : Char} (h : c ∈ Nat.toDigits 10 n) : isNumeralChar c = true := by
  simp [isNumeralChar, Reading.isDigit_of_mem_toDigits h]

theorem isNumeralChar_of_mem_zeros {k : ℤ} {c : Char} (h : c ∈ Decimal.zeros k) : isNumeralChar c = true := by
  simp [isNumeralChar, Reading.isDigit_of_mem_zeros h]

namespace Decimal

theorem isNumeralChar_of_mem_positional (d : Decimal) : ∀ c ∈ d.positional ".0", isNumeralChar c = true := by
  have hdigits : ∀ c ∈ Nat.toDigits 10 d.digits, isNumeralChar c = true := fun c => isNumeralChar_of_mem_toDigits
  have hzeros : ∀ k, ∀ c ∈ zeros k, isNumeralChar c = true := fun k c => isNumeralChar_of_mem_zeros
  simp only [positional]
  split
  · have hending : ∀ c ∈ ['.', '0'], isNumeralChar c = true :=
      List.forall_mem_cons.mpr ⟨rfl, List.forall_mem_singleton.mpr rfl⟩
    exact List.forall_mem_append.mpr ⟨List.forall_mem_append.mpr ⟨hdigits, hzeros _⟩, hending⟩
  · split
    · refine List.forall_mem_append.mpr ⟨fun c hc => hdigits c (List.mem_of_mem_take hc), ?_⟩
      exact List.forall_mem_cons.mpr ⟨rfl, fun c hc => hdigits c (List.mem_of_mem_drop hc)⟩
    · refine List.forall_mem_cons.mpr ⟨rfl, List.forall_mem_cons.mpr ⟨rfl, ?_⟩⟩
      exact List.forall_mem_append.mpr ⟨hzeros _, hdigits⟩

theorem isNumeralChar_of_mem_scientific (d : Decimal) : ∀ c ∈ d.scientific, isNumeralChar c = true := by
  have hdigits : ∀ n, ∀ c ∈ Nat.toDigits 10 n, isNumeralChar c = true := fun n c => isNumeralChar_of_mem_toDigits
  simp only [scientific]
  refine List.forall_mem_append.mpr ⟨?_, List.forall_mem_cons.mpr ⟨rfl, List.forall_mem_cons.mpr ⟨?_, hdigits _⟩⟩⟩
  · split
    · next lead more heq =>
      obtain ⟨hlead, hmore⟩ := List.forall_mem_cons.mp (heq ▸ hdigits d.digits)
      exact List.forall_mem_cons.mpr ⟨hlead, List.forall_mem_cons.mpr ⟨rfl, hmore⟩⟩
    · exact hdigits d.digits
  · split <;> rfl

theorem point_mem_positional (d : Decimal) : '.' ∈ d.positional ".0" := by
  simp only [positional]
  split
  · exact List.mem_append_right _ List.mem_cons_self
  · split
    · exact List.mem_append_right _ List.mem_cons_self
    · exact List.mem_cons_of_mem _ List.mem_cons_self

theorem mark_mem_scientific (d : Decimal) : 'e' ∈ d.scientific := List.mem_append_right _ List.mem_cons_self

end Decimal

namespace Binary64

theorem isNumeralChar_of_mem_jsonText (x : Binary64) : ∀ c ∈ x.jsonText.toList, isNumeralChar c = true := by
  simp only [jsonText, String.toList_ofList]
  refine List.forall_mem_append.mpr ⟨?_, ?_⟩
  · unfold signChars
    split
    · exact List.forall_mem_singleton.mpr rfl
    · exact List.forall_mem_nil _
  · split
    · exact List.forall_mem_cons.mpr ⟨rfl, List.forall_mem_cons.mpr ⟨rfl, List.forall_mem_singleton.mpr rfl⟩⟩
    · split
      · exact Decimal.isNumeralChar_of_mem_positional _
      · exact Decimal.isNumeralChar_of_mem_scientific _

/-- A number that is not held as an integer is not written as one. -/
theorem mark_mem_jsonText (x : Binary64) : '.' ∈ x.jsonText.toList ∨ 'e' ∈ x.jsonText.toList := by
  simp only [jsonText, String.toList_ofList]
  split
  · exact .inl (List.mem_append_right _ (by decide))
  · split
    · exact .inl (List.mem_append_right _ (Decimal.point_mem_positional _))
    · exact .inr (List.mem_append_right _ (Decimal.mark_mem_scientific _))

theorem jsonText_ne_nil (x : Binary64) : x.jsonText.toList ≠ [] := by
  rcases x.mark_mem_jsonText with h | h
  · exact List.ne_nil_of_mem h
  · exact List.ne_nil_of_mem h

end Binary64

section

variable {n : ℤ} {c : Char}

theorem mem_integerChars (h : c ∈ integerChars n) : c = '-' ∨ c.isDigit = true := by
  unfold integerChars at h
  split at h
  · exact (List.mem_cons.mp h).imp id Reading.isDigit_of_mem_toDigits
  · exact .inr (Reading.isDigit_of_mem_toDigits h)

theorem isNumeralChar_of_mem_integerChars (h : c ∈ integerChars n) : isNumeralChar c = true := by
  rcases mem_integerChars h with rfl | hdigit
  · rfl
  · simp [isNumeralChar, hdigit]

theorem integerChars_ne_nil : integerChars n ≠ [] := by
  unfold integerChars
  split
  · exact List.cons_ne_nil _ _
  · exact Nat.toDigits_ne_nil

theorem integerChars_ne_jsonText (n : ℤ) (x : Binary64) : integerChars n ≠ x.jsonText.toList := by
  intro h
  have hmark : ∀ {c : Char}, c ≠ '-' → c.isDigit = false → c ∉ x.jsonText.toList := by
    intro c hsign hdigit hmem
    rcases mem_integerChars (h ▸ hmem) with heq | heq
    · exact hsign heq
    · rw [hdigit] at heq
      cases heq
  rcases x.mark_mem_jsonText with hmem | hmem
  · exact hmark (by decide) rfl hmem
  · exact hmark (by decide) rfl hmem

theorem integerChars_injective : Function.Injective integerChars := by
  have hdigits : ∀ {m n : ℕ}, Nat.toDigits 10 m = Nat.toDigits 10 n → m = n := by
    intro m n h
    rw [← Reading.ofDigits_toDigits m, h, Reading.ofDigits_toDigits]
  have hsign : ∀ {n : ℕ} {cs : List Char}, Nat.toDigits 10 n ≠ '-' :: cs := by
    intro n cs h
    cases Reading.isDigit_of_mem_toDigits (n := n) (h ▸ List.mem_cons_self)
  intro m n h
  unfold integerChars at h
  split at h
  · split at h
    · have habs := hdigits (List.cons.inj h).2
      omega
    · exact absurd h.symm hsign
  · split at h
    · exact absurd h hsign
    · have habs := hdigits h
      omega

end

end Audience
