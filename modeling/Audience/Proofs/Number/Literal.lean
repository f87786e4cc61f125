import Audience.Proofs.Number.Signed

/-!
Numbers as they may be spelled. An integer is digits after an optional sign, and outside the range it is read as no
number at all (`Reading.int64_of_spelledInteger`). A decimal is digits with an optional point among or beside them and an
optional exponent (`Decimal.Spelling`), and the reader takes exactly these (`Reading.decimal_eq_some_iff`). In front of a
decimal or of a name may stand one sign; the number is the decimal rounded once, or the one that the name means
(`Reading.float64_eq_ok_iff`).
-/

namespace Audience

/-- What stands before a number. -/
inductive Sign where
  | unsigned
  | plus
  | minus
deriving DecidableEq

namespace Sign

/-- The sign as it is written. -/
def chars : Sign → List Char
  | unsigned => []
  | plus => ['+']
  | minus => ['-']

/-- The number is below zero, or the lesser of the two zeros. -/
def isNegative (s : Sign) : Bool := s = minus

end Sign

namespace Decimal

/-- An exponent as it is spelled. -/
structure Exponent where
  mark : Char
  sign : Sign
  digits : Numeral
  isMark : mark = 'e' ∨ mark = 'E'

namespace Exponent

/-- The text of the exponent. -/
def chars (e : Exponent) : List Char := e.mark :: (e.sign.chars ++ e.digits.digits)

/-- The power of ten. -/
def value (e : Exponent) : Int := if e.sign.isNegative then -(e.digits.value : Int) else e.digits.value

end Exponent

/-- A decimal as it is spelled. The fraction is the digits behind a point. -/
structure Spelling where
  whole : List Char
  fraction : Option (List Char)
  exponent : Option Exponent
  areDigits : ∀ c ∈ whole ++ fraction.getD [], c.isDigit = true
  nonempty : whole ++ fraction.getD [] ≠ []

namespace Spelling

/-- The text behind the digits of the whole. -/
def ending (p : Spelling) : List Char :=
  (match p.fraction with
    | none => []
    | some digits => '.' :: digits) ++ (p.exponent.map Exponent.chars).getD []

/-- The text of the decimal. -/
def chars (p : Spelling) : List Char := p.whole ++ p.ending

/-- The decimal that is spelled. -/
def decimal (p : Spelling) : Decimal :=
  ⟨Reading.ofDigits (p.whole ++ p.fraction.getD []), (p.exponent.map Exponent.value).getD 0 - (p.fraction.getD []).length⟩

end Spelling

end Decimal

namespace Reading

variable {cs body whole fraction rest : List Char} {sign : Sign} {k : Int} {d : Decimal} {x : Float64}

/-! ### Signs -/

/-- The text does not start with a sign. -/
def Signless (cs : List Char) : Prop := cs.head? ≠ some '-' ∧ cs.head? ≠ some '+'

theorem signless_of_head? {c : Char} (h : cs.head? = some c) (hminus : c ≠ '-') (hplus : c ≠ '+') : Signless cs := by
  rw [Signless, h]
  exact ⟨fun heq => hminus (Option.some.inj heq), fun heq => hplus (Option.some.inj heq)⟩

theorem ne_of_isDigit {c d : Char} (hc : c.isDigit = true) (hd : d.isDigit = false) : c ≠ d := by
  rintro rfl
  rw [hd] at hc
  cases hc

theorem signless_numeral (n : Numeral) : Signless n.digits := by
  obtain ⟨c, hdigit, hc⟩ := n.head?_isDigit
  exact signless_of_head? hc (ne_of_isDigit hdigit rfl) (ne_of_isDigit hdigit rfl)

/-- A text has one sign in front, or none and does not start with one. -/
theorem exists_sign_append (cs : List Char) :
    ∃ sign : Sign, ∃ body, cs = sign.chars ++ body ∧ (sign = .unsigned → Signless body) := by
  by_cases hminus : cs.head? = some '-'
  · obtain ⟨body, rfl⟩ := List.head?_eq_some_iff.mp hminus
    exact ⟨.minus, body, rfl, nofun⟩
  · by_cases hplus : cs.head? = some '+'
    · obtain ⟨body, rfl⟩ := List.head?_eq_some_iff.mp hplus
      exact ⟨.plus, body, rfl, nofun⟩
    · exact ⟨.unsigned, cs, rfl, fun _ => ⟨hminus, hplus⟩⟩

/-! ### Integers -/

/-- An integer of any size, as it is spelled. -/
inductive SpelledInteger : List Char → Int → Prop
  | plain (plus : Bool) (num : Numeral) : SpelledInteger (signed plus num) num.value
  | negative (num : Numeral) : SpelledInteger ('-' :: num.digits) (-num.value)

theorem int64_eq_ok_iff_spelledInteger {n : Int64} : int64 cs = .ok n ↔ SpelledInteger cs n.toInt := by
  rw [int64_eq_ok_iff]
  constructor
  · rintro (⟨plus, num, rfl, hvalue⟩ | ⟨num, rfl, hvalue⟩)
    · exact hvalue ▸ .plain plus num
    · exact hvalue ▸ .negative num
  · generalize n.toInt = k
    rintro (⟨plus, num⟩ | ⟨num⟩)
    · exact .inl ⟨plus, num, rfl, rfl⟩
    · exact .inr ⟨num, rfl, rfl⟩

/-- An integer is read as itself or, past an end of the range, not at all. -/
theorem int64_of_spelledInteger (h : SpelledInteger cs k) :
    int64 cs =
      if k < -0x8000000000000000 then .error .tooSmall
      else if 0x7fffffffffffffff < k then .error .tooLarge
      else .ok (Int64.ofInt k) := by
  cases h with
  | plain plus num =>
    rw [int64_signed, if_neg (show ¬(num.value : Int) < -0x8000000000000000 by omega)]
    split
    · next hle => rw [if_neg (by omega)]
    · next hlt => rw [if_pos (by omega)]
  | negative num =>
    rw [int64_minus]
    split
    · next hle => rw [if_neg (by omega), if_neg (by omega)]
    · next hlt => rw [if_pos (by omega)]

/-! ### Exponents -/

theorem exponent_sign {mark : Char} (hmark : mark = 'e' ∨ mark = 'E') (h : sign = .unsigned → Signless body) :
    exponent (mark :: (sign.chars ++ body)) =
      if body ≠ [] ∧ body.all Char.isDigit then
        some (if sign.isNegative then -(ofDigits body : Int) else ofDigits body)
      else none := by
  have hmark : (mark == 'e' || mark == 'E') = true := by simpa using hmark
  simp only [exponent, hmark, if_true]
  cases sign with
  | minus => rfl
  | plus => rfl
  | unsigned =>
    obtain ⟨hminus, hplus⟩ := h rfl
    simp only [Sign.chars, List.nil_append]
    split
    · exact absurd rfl hminus
    · exact absurd rfl hplus
    · rfl

/-- Behind the digits of a number stands nothing or an exponent. -/
theorem exponent_eq_some_iff :
    exponent cs = some k ↔
      ∃ e : Option Decimal.Exponent, cs = (e.map Decimal.Exponent.chars).getD [] ∧
        k = (e.map Decimal.Exponent.value).getD 0 := by
  constructor
  · intro h
    cases cs with
    | nil => exact ⟨none, rfl, (Option.some.inj h).symm⟩
    | cons mark cs =>
      have hmark : mark = 'e' ∨ mark = 'E' := by
        refine Decidable.byContradiction fun hmark => ?_
        simp [exponent, hmark] at h
      obtain ⟨sign, digits, rfl, hsign⟩ := exists_sign_append cs
      rw [exponent_sign hmark hsign] at h
      split at h
      · next hdigits =>
        exact ⟨some ⟨mark, sign, ⟨digits, hdigits.1, List.all_eq_true.mp hdigits.2⟩, hmark⟩, rfl, (Option.some.inj h).symm⟩
      · cases h
  · rintro ⟨e, rfl, rfl⟩
    cases e with
    | none => rfl
    | some e =>
      exact (exponent_sign e.isMark fun _ => signless_numeral e.digits).trans
        (if_pos ⟨e.digits.nonempty, List.all_eq_true.mpr e.digits.areDigits⟩)

theorem head?_exponent_chars (e : Option Decimal.Exponent) :
    Stops Char.isDigit ((e.map Decimal.Exponent.chars).getD []) ∧
      ((e.map Decimal.Exponent.chars).getD []).head? ≠ some '.' := by
  cases e with
  | none => exact ⟨stops_nil, nofun⟩
  | some e =>
    rcases e.isMark with hmark | hmark
    · exact ⟨stops_cons (hmark ▸ rfl), by simp [Decimal.Exponent.chars, hmark]⟩
    · exact ⟨stops_cons (hmark ▸ rfl), by simp [Decimal.Exponent.chars, hmark]⟩

/-! ### Decimals -/

theorem exists_digits_append (cs : List Char) :
    ∃ digits rest, cs = digits ++ rest ∧ (∀ c ∈ digits, c.isDigit = true) ∧ Stops Char.isDigit rest := by
  refine ⟨cs.takeWhile Char.isDigit, cs.dropWhile Char.isDigit, List.takeWhile_append_dropWhile.symm,
    fun c => List.mem_takeWhile_imp, fun c hc => ?_⟩
  have hhead := List.head?_dropWhile_not Char.isDigit cs
  rw [Option.mem_def.mp hc] at hhead
  exact hhead

/-- The reader takes every decimal as it may be spelled, and nothing else. -/
theorem decimal_eq_some_iff : decimal cs = some d ↔ ∃ p : Decimal.Spelling, cs = p.chars ∧ d = p.decimal := by
  constructor
  · intro h
    obtain ⟨whole, rest, rfl, hwhole, hrest⟩ := exists_digits_append cs
    by_cases hpoint : rest.head? = some '.'
    · obtain ⟨more, rfl⟩ := List.head?_eq_some_iff.mp hpoint
      obtain ⟨fraction, rest, rfl, hfraction, hstops⟩ := exists_digits_append more
      rw [decimal_with_point hwhole hfraction hstops] at h
      split at h
      · cases h
      · next hne =>
        obtain ⟨k, hexponent, rfl⟩ := Option.map_eq_some_iff.mp h
        obtain ⟨e, rfl, rfl⟩ := exponent_eq_some_iff.mp hexponent
        exact ⟨⟨whole, some fraction, e, List.forall_mem_append.mpr ⟨hwhole, hfraction⟩, hne⟩, rfl, rfl⟩
    · rw [decimal_without_point hwhole hrest hpoint] at h
      split at h
      · cases h
      · next hne =>
        obtain ⟨k, hexponent, rfl⟩ := Option.map_eq_some_iff.mp h
        obtain ⟨e, rfl, rfl⟩ := exponent_eq_some_iff.mp hexponent
        exact ⟨⟨whole, none, e, by simpa using hwhole, by simpa using hne⟩, rfl, by simp [Decimal.Spelling.decimal]⟩
  · rintro ⟨⟨whole, fraction, e, hdigits, hne⟩, rfl, rfl⟩
    obtain ⟨hwhole, hfraction⟩ := List.forall_mem_append.mp hdigits
    obtain ⟨hstops, hpoint⟩ := head?_exponent_chars e
    have hexponent := exponent_eq_some_iff.mpr ⟨e, rfl, rfl⟩
    cases fraction with
    | none =>
      have hread := decimal_without_point hwhole hstops hpoint
      rw [hexponent] at hread
      simpa [Decimal.Spelling.chars, Decimal.Spelling.ending, Decimal.Spelling.decimal, by simpa using hne] using hread
    | some fraction =>
      have hread := decimal_with_point hwhole hfraction hstops
      rw [hexponent, if_neg hne] at hread
      exact hread

/-! ### Numbers -/

/-- A number as it is spelled: a decimal, which is rounded once, or the name of one that is not finite, in any case. -/
inductive Spelled : List Char → Float64 → Prop
  | decimal (sign : Sign) (p : Decimal.Spelling) :
      Spelled (sign.chars ++ p.chars) (Float64.ofDecimal sign.isNegative p.decimal)
  | infinity (sign : Sign) (name : List Char)
      (spelled : name.map Char.toLower = "inf".toList ∨ name.map Char.toLower = "infinity".toList) :
      Spelled (sign.chars ++ name) (.infinite sign.isNegative)
  | nan (sign : Sign) (name : List Char) (spelled : name.map Char.toLower = "nan".toList) :
      Spelled (sign.chars ++ name) .nan

theorem float64_sign (h : sign = .unsigned → Signless body) :
    (float64 (sign.chars ++ body)).toOption =
      ((decimal body).map (Float64.ofDecimal sign.isNegative)).or (named sign.isNegative body) := by
  cases sign with
  | minus =>
    show (float64 ('-' :: body)).toOption = ((decimal body).map (Float64.ofDecimal true)).or (named true body)
    simp only [float64]
    cases decimal body <;> cases named true body <;> rfl
  | plus =>
    show (float64 ('+' :: body)).toOption = ((decimal body).map (Float64.ofDecimal false)).or (named false body)
    simp only [float64]
    cases decimal body <;> cases named false body <;> rfl
  | unsigned =>
    obtain ⟨hminus, hplus⟩ := h rfl
    show (float64 body).toOption = ((decimal body).map (Float64.ofDecimal false)).or (named false body)
    cases body with
    | nil => rfl
    | cons c cs =>
      have hminus : c ≠ '-' := fun heq => hminus (heq ▸ rfl)
      have hplus : c ≠ '+' := fun heq => hplus (heq ▸ rfl)
      cases hdecimal : decimal (c :: cs) <;> cases hnamed : named false (c :: cs) <;>
        simp [float64, hminus, hplus, hdecimal, hnamed, Except.toOption]

theorem named_eq_some_iff {negative : Bool} :
    named negative cs = some x ↔
      (cs.map Char.toLower = "inf".toList ∨ cs.map Char.toLower = "infinity".toList) ∧ x = .infinite negative ∨
        cs.map Char.toLower = "nan".toList ∧ x = .nan := by
  have hname : ∀ name : String, String.ofList (cs.map Char.toLower) = name ↔ cs.map Char.toLower = name.toList := by
    intro name
    rw [← String.toList_inj, String.toList_ofList]
  simp only [named, Bool.or_eq_true, beq_iff_eq, hname]
  split
  · next hinfinity =>
    constructor
    · intro h
      exact .inl ⟨hinfinity, (Option.some.inj h).symm⟩
    · rintro (⟨-, rfl⟩ | ⟨hnan, -⟩)
      · rfl
      · rw [hnan] at hinfinity
        exact absurd hinfinity (by decide)
  · next hinfinity =>
    split
    · next hnan =>
      constructor
      · intro h
        exact .inr ⟨hnan, (Option.some.inj h).symm⟩
      · rintro (⟨h, -⟩ | ⟨-, rfl⟩)
        · exact absurd h hinfinity
        · rfl
    · next hnan =>
      constructor
      · intro h
        cases h
      · rintro (⟨h, -⟩ | ⟨h, -⟩)
        · exact absurd h hinfinity
        · exact absurd h hnan

/-! ### The first characters -/

theorem head?_of_decimal (h : decimal cs = some d) : ∃ c, cs.head? = some c ∧ (c.isDigit = true ∨ c = '.') := by
  obtain ⟨⟨whole, fraction, e, hdigits, hne⟩, rfl, -⟩ := decimal_eq_some_iff.mp h
  cases whole with
  | cons c whole => exact ⟨c, rfl, .inl (hdigits c List.mem_cons_self)⟩
  | nil =>
    cases fraction with
    | none => exact absurd rfl hne
    | some fraction => exact ⟨'.', rfl, .inr rfl⟩

theorem toLower_of_isDigit {c : Char} (h : c.isDigit = true) : c.toLower = c := by
  have hrange : 48 ≤ c.toNat ∧ c.toNat ≤ 57 := Char.isDigit_iff_toNat.mp h
  unfold Char.toLower
  split
  · next hupper =>
    have hlow : 65 ≤ c.toNat := UInt32.le_iff_toNat_le.mp hupper.1
    omega
  · rfl

theorem signless_of_decimal (h : decimal cs = some d) : Signless cs := by
  obtain ⟨c, hc, hdigit | rfl⟩ := head?_of_decimal h
  · exact signless_of_head? hc (ne_of_isDigit hdigit rfl) (ne_of_isDigit hdigit rfl)
  · exact signless_of_head? hc (by decide) (by decide)

theorem head?_of_named {negative : Bool} (h : named negative cs = some x) :
    ∃ c, cs.head? = some c ∧ (c.toLower = 'i' ∨ c.toLower = 'n') := by
  have hhead : ∀ {c : Char} {more : List Char}, cs.map Char.toLower = c :: more →
      ∃ d, cs.head? = some d ∧ d.toLower = c := by
    intro c more hmap
    obtain ⟨d, rest, rfl, hd, -⟩ := List.map_eq_cons_iff.mp hmap
    exact ⟨d, rfl, hd⟩
  rcases named_eq_some_iff.mp h with ⟨hname | hname, -⟩ | ⟨hname, -⟩
  · obtain ⟨c, hc, hlower⟩ := hhead hname
    exact ⟨c, hc, .inl hlower⟩
  · obtain ⟨c, hc, hlower⟩ := hhead hname
    exact ⟨c, hc, .inl hlower⟩
  · obtain ⟨c, hc, hlower⟩ := hhead hname
    exact ⟨c, hc, .inr hlower⟩

/-- A name starts with a letter, so it is no decimal and has no sign in it. -/
theorem decimal_of_named {negative : Bool} (h : named negative cs = some x) : decimal cs = none ∧ Signless cs := by
  obtain ⟨c, hc, hlower⟩ := head?_of_named h
  have hne : ∀ d : Char, d.toLower = d → d ≠ 'i' → d ≠ 'n' → c ≠ d := by
    rintro d hd hi hn rfl
    rw [hd] at hlower
    exact hlower.elim hi hn
  refine ⟨?_, signless_of_head? hc (hne '-' rfl (by decide) (by decide)) (hne '+' rfl (by decide) (by decide))⟩
  rw [Option.eq_none_iff_forall_not_mem]
  intro d hd
  obtain ⟨c', hc', hdigit | rfl⟩ := head?_of_decimal hd
  · obtain rfl := Option.some.inj (hc.symm.trans hc')
    exact hne c (toLower_of_isDigit hdigit) (ne_of_isDigit hdigit rfl) (ne_of_isDigit hdigit rfl) rfl
  · exact hne '.' rfl (by decide) (by decide) (Option.some.inj (hc.symm.trans hc'))

/-- A text is read when it spells a number, and then as that number. -/
theorem float64_eq_ok_iff : float64 cs = .ok x ↔ Spelled cs x := by
  -- Which of the two readings failed does not matter here, so the errors are left out.
  have hoption : ∀ cs, float64 cs = .ok x ↔ (float64 cs).toOption = some x := by
    intro cs
    cases float64 cs <;> simp [Except.toOption]
  rw [hoption]
  constructor
  · intro h
    obtain ⟨sign, body, rfl, hsign⟩ := exists_sign_append cs
    rw [float64_sign hsign, Option.or_eq_some_iff, Option.map_eq_some_iff] at h
    rcases h with ⟨d, hdecimal, rfl⟩ | ⟨-, hnamed⟩
    · obtain ⟨p, rfl, rfl⟩ := decimal_eq_some_iff.mp hdecimal
      exact .decimal sign p
    · rcases named_eq_some_iff.mp hnamed with ⟨hname, rfl⟩ | ⟨hname, rfl⟩
      · exact .infinity sign body hname
      · exact .nan sign body hname
  · have hnamed : ∀ {sign : Sign} {name : List Char}, named sign.isNegative name = some x →
        (float64 (sign.chars ++ name)).toOption = some x := by
      intro sign name h
      obtain ⟨hdecimal, hsignless⟩ := decimal_of_named h
      rw [float64_sign fun _ => hsignless, hdecimal, h]
      rfl
    intro h
    cases h with
    | decimal sign p =>
      have hdecimal := decimal_eq_some_iff.mpr ⟨p, rfl, rfl⟩
      rw [float64_sign fun _ => signless_of_decimal hdecimal, hdecimal]
      rfl
    | infinity sign name spelled => exact hnamed (named_eq_some_iff.mpr (.inl ⟨spelled, rfl⟩))
    | nan sign name spelled => exact hnamed (named_eq_some_iff.mpr (.inr ⟨spelled, rfl⟩))

end Reading

end Audience
