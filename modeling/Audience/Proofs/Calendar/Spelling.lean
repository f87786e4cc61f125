import Audience.Proofs.Calendar.Gregorian
import Audience.Proofs.Number.Numeral

/-!
How a date may be spelled. The reader takes every spelling of a day of the calendar and nothing else
(`Date.read?_eq_some_iff`): the year may have a sign, each number may have blanks before it, and month and day may lack
their zeros. Only a spelling in full, without signs and blanks and with all its zeros, has the form `YYYY-MM-DD`
(`Date.Spelling.hasForm_iff`), and then it is the one such text of its day (`Date.Spelling.Full.chars_eq`).
-/

namespace Audience.Date

open Reading (Stops stops_cons stops_nil)
open Text (Blanks isBlank)

/-- What stands before the digits of a year. -/
inductive YearSign where
  | unsigned
  | plus
  | minus

/-- The sign as it is written. -/
def YearSign.chars : YearSign → List Char
  | unsigned => []
  | plus => ['+']
  | minus => ['-']

/-- The year with the sign. -/
def YearSign.signed (n : Nat) : YearSign → Int
  | minus => -n
  | _ => n

/-- A day as it may be spelled. -/
structure Spelling where
  beforeYear : List Char
  sign : YearSign
  year : Numeral
  beforeMonth : List Char
  month : Numeral
  beforeDay : List Char
  day : Numeral
  blanks : Blanks beforeYear ∧ Blanks beforeMonth ∧ Blanks beforeDay
  yearLength : sign = .unsigned → year.digits.length ≤ 4
  monthLength : month.digits.length ≤ 2
  dayLength : day.digits.length ≤ 2

namespace Spelling

/-- The text of the spelling. -/
def chars (p : Spelling) : List Char :=
  p.beforeYear ++ (p.sign.chars ++ (p.year.digits ++ '-' ::
    (p.beforeMonth ++ (p.month.digits ++ '-' :: (p.beforeDay ++ p.day.digits)))))

/-- The day that is spelled. -/
def date (p : Spelling) : Date := ⟨p.sign.signed p.year.value, p.month.value, p.day.value⟩

/-- There are no signs and no blanks, and all zeros are written. -/
structure Full (p : Spelling) : Prop where
  beforeYear : p.beforeYear = []
  unsigned : p.sign = .unsigned
  year : p.year.digits.length = 4
  beforeMonth : p.beforeMonth = []
  month : p.month.digits.length = 2
  beforeDay : p.beforeDay = []
  day : p.day.digits.length = 2

end Spelling

/-! ### The form `YYYY-MM-DD` -/

/-- Four digits, two digits and two digits with hyphens between them. -/
def HasForm (cs : List Char) : Prop :=
  ∃ year month day : Numeral, year.digits.length = 4 ∧ month.digits.length = 2 ∧ day.digits.length = 2 ∧
    cs = year.digits ++ '-' :: (month.digits ++ '-' :: day.digits)

/-- The text of a day in that form. -/
def formChars (year month day : Nat) : List Char :=
  (Numeral.padded 4 year).digits ++ '-' :: ((Numeral.padded 2 month).digits ++ '-' :: (Numeral.padded 2 day).digits)

theorem length_padded_year {year : Nat} (h : year ≤ 9999) : (Numeral.padded 4 year).digits.length = 4 :=
  Numeral.length_padded (by decide) (Nat.lt_succ_of_le h)

theorem length_padded_part {n : Nat} (h : n ≤ 99) : (Numeral.padded 2 n).digits.length = 2 :=
  Numeral.length_padded (by decide) (Nat.lt_succ_of_le h)

theorem HasForm.mem {cs : List Char} {c : Char} (h : HasForm cs) (hc : c ∈ cs) : c = '-' ∨ c.isDigit = true := by
  obtain ⟨year, month, day, -, -, -, rfl⟩ := h
  simp only [List.mem_append, List.mem_cons] at hc
  rcases hc with hc | hc | hc | hc | hc
  · exact .inr (year.areDigits c hc)
  · exact .inl hc
  · exact .inr (month.areDigits c hc)
  · exact .inl hc
  · exact .inr (day.areDigits c hc)

theorem HasForm.length {cs : List Char} (h : HasForm cs) : cs.length = 10 := by
  obtain ⟨year, month, day, hyear, hmonth, hday, rfl⟩ := h
  simp only [List.length_append, List.length_cons, hyear, hmonth, hday]

namespace Spelling

variable {p : Spelling}

theorem Full.chars_eq (h : p.Full) : p.chars = formChars p.year.value p.month.value p.day.value := by
  have hyear := p.year.eq_padded
  have hmonth := p.month.eq_padded
  have hday := p.day.eq_padded
  rw [h.year] at hyear
  rw [h.month] at hmonth
  rw [h.day] at hday
  rw [chars, h.beforeYear, h.unsigned, h.beforeMonth, h.beforeDay, formChars, ← hyear, ← hmonth, ← hday]
  rfl

/-- A spelling has the form only when it is written in full. -/
theorem hasForm_iff : HasForm p.chars ↔ p.Full := by
  constructor
  · rintro ⟨year, month, day, hyear, hmonth, hday, h⟩
    obtain ⟨hblanksYear, hblanksMonth, hblanksDay⟩ := p.blanks
    have hbeforeYear : p.beforeYear = [] := Numeral.eq_nil_of_blanks_append hblanksYear h
    rw [chars, hbeforeYear, List.nil_append] at h
    have hunsigned : p.sign = .unsigned := by
      obtain ⟨c, hdigit, hc⟩ := year.head?_append_isDigit ('-' :: (month.digits ++ '-' :: day.digits))
      rw [← h] at hc
      cases hsign : p.sign with
      | unsigned => rfl
      | plus =>
        rw [hsign] at hc
        obtain rfl := Option.some.inj hc
        cases hdigit
      | minus =>
        rw [hsign] at hc
        obtain rfl := Option.some.inj hc
        cases hdigit
    rw [hunsigned] at h
    obtain ⟨hyears, hafterYear⟩ := Numeral.append_inj (stops_cons rfl) (stops_cons rfl) h
    replace hafterYear := (List.cons.inj hafterYear).2
    have hbeforeMonth : p.beforeMonth = [] := Numeral.eq_nil_of_blanks_append hblanksMonth hafterYear
    rw [hbeforeMonth] at hafterYear
    obtain ⟨hmonths, hafterMonth⟩ := Numeral.append_inj (stops_cons rfl) (stops_cons rfl) hafterYear
    replace hafterMonth := (List.cons.inj hafterMonth).2
    rw [← List.append_nil day.digits] at hafterMonth
    have hbeforeDay : p.beforeDay = [] := Numeral.eq_nil_of_blanks_append hblanksDay hafterMonth
    rw [hbeforeDay, List.nil_append, ← List.append_nil p.day.digits] at hafterMonth
    obtain ⟨hdays, -⟩ := Numeral.append_inj stops_nil stops_nil hafterMonth
    exact ⟨hbeforeYear, hunsigned, hyears ▸ hyear, hbeforeMonth, hmonths ▸ hmonth, hbeforeDay, hdays ▸ hday⟩
  · intro h
    refine ⟨p.year, p.month, p.day, h.year, h.month, h.day, ?_⟩
    rw [chars, h.beforeYear, h.unsigned, h.beforeMonth, h.beforeDay]
    rfl

/-- The spelling of a day in that form. -/
def inForm (year month day : Nat) (hyear : year ≤ 9999) (hmonth : month ≤ 99) (hday : day ≤ 99) : Spelling where
  beforeYear := []
  sign := .unsigned
  year := .padded 4 year
  beforeMonth := []
  month := .padded 2 month
  beforeDay := []
  day := .padded 2 day
  blanks := ⟨Text.blanks_nil, Text.blanks_nil, Text.blanks_nil⟩
  yearLength := fun _ => (length_padded_year hyear).le
  monthLength := (length_padded_part hmonth).le
  dayLength := (length_padded_part hday).le

theorem full_inForm {year month day : Nat} (hyear : year ≤ 9999) (hmonth : month ≤ 99) (hday : day ≤ 99) :
    (inForm year month day hyear hmonth hday).Full where
  beforeYear := rfl
  unsigned := rfl
  year := length_padded_year hyear
  beforeMonth := rfl
  month := length_padded_part hmonth
  beforeDay := rfl
  day := length_padded_part hday

theorem chars_inForm {year month day : Nat} (hyear : year ≤ 9999) (hmonth : month ≤ 99) (hday : day ≤ 99) :
    (inForm year month day hyear hmonth hday).chars = formChars year month day := rfl

theorem date_inForm {year month day : Nat} (hyear : year ≤ 9999) (hmonth : month ≤ 99) (hday : day ≤ 99) :
    (inForm year month day hyear hmonth hday).date = ⟨year, month, day⟩ := by
  simp only [date, inForm, Numeral.value_padded, YearSign.signed]

end Spelling

/-! ### The reader -/

variable {cs rest : List Char} {limit : Option Nat}

theorem digits?_append (limit : Option Nat) (n : Numeral) (hlimit : ∀ k ∈ limit, n.digits.length ≤ k)
    (hrest : Stops Char.isDigit rest) : digits? limit (n.digits ++ rest) = some (n.value, rest) := by
  have hrun := Reading.takeWhile_append n.areDigits hrest
  cases limit with
  | none => simp [digits?, hrun, n.nonempty, Numeral.value]
  | some k => simp [digits?, hrun, n.nonempty, Numeral.value, List.take_of_length_le (hlimit k rfl)]

theorem exists_numeral_of_digits? {v : Nat} (h : digits? limit cs = some (v, rest)) :
    ∃ n : Numeral, cs = n.digits ++ rest ∧ n.value = v ∧ ∀ k ∈ limit, n.digits.length ≤ k := by
  have hall : ∀ c ∈ cs.takeWhile Char.isDigit, c.isDigit = true := List.all_eq_true.mp List.all_takeWhile
  have hprefix := List.takeWhile_prefix (l := cs) Char.isDigit
  -- The run that is read is the whole run of digits, or as much of it as the limit lets through.
  obtain ⟨run, hrun, hdigits, hlimit, heq⟩ : ∃ run, run <+: cs ∧ (∀ c ∈ run, c.isDigit = true) ∧
      (∀ k ∈ limit, run.length ≤ k) ∧
      digits? limit cs = if run = [] then none else some (Reading.ofDigits run, cs.drop run.length) := by
    cases limit with
    | none => exact ⟨_, hprefix, hall, by simp, rfl⟩
    | some k =>
      refine ⟨_, (List.take_prefix k _).trans hprefix, fun c hc => hall c (List.mem_of_mem_take hc), ?_, rfl⟩
      intro k' hk'
      obtain rfl := Option.some.inj hk'
      exact List.length_take_le _ _
  rw [heq] at h
  split at h
  · cases h
  · next hne =>
    obtain ⟨rfl, rfl⟩ := Prod.mk.inj (Option.some.inj h)
    exact ⟨⟨run, hne, hdigits⟩, (List.prefix_iff_eq_append.mp hrun).symm, rfl, hlimit⟩

/-- No blank stands at the start of a year. -/
theorem YearSign.isBlank_head? (sign : YearSign) (n : Numeral) (rest : List Char) :
    ∀ c ∈ (sign.chars ++ (n.digits ++ rest)).head?, isBlank c = false := by
  intro c hc
  cases sign with
  | unsigned =>
    obtain ⟨d, hdigit, hd⟩ := n.head?_append_isDigit rest
    obtain rfl := Option.some.inj (hd.symm.trans hc)
    exact Text.isBlank_of_isDigit hdigit
  | plus =>
    obtain rfl := Option.some.inj hc
    rfl
  | minus =>
    obtain rfl := Option.some.inj hc
    rfl

/-- Blanks stand at the front of a spelling or inside it, never at its end. -/
theorem Spelling.trimmed {p : Spelling} (h : p.beforeYear = []) : Text.Trimmed p.chars where
  head := by
    rw [chars, h, List.nil_append]
    exact p.sign.isBlank_head? p.year _
  last := by
    intro c hc
    obtain ⟨d, hdigit, hd⟩ := p.day.getLast?_isDigit
    have hlast : p.chars.getLast? = some d := by
      simp [chars, List.getLast?_append, List.getLast?_cons, hd]
    obtain rfl := Option.some.inj (hlast.symm.trans hc)
    exact Text.isBlank_of_isDigit hdigit

theorem Spelling.beforeYear_eq_nil {p : Spelling} (h : ∀ c ∈ p.chars.head?, isBlank c = false) : p.beforeYear = [] := by
  cases hbefore : p.beforeYear with
  | nil => rfl
  | cons c rest =>
    have hblank := p.blanks.1 c (by rw [hbefore]; exact List.mem_cons_self)
    rw [h c (by rw [chars, hbefore]; rfl)] at hblank
    cases hblank

theorem year?_append {before : List Char} (hbefore : Blanks before) (sign : YearSign) (n : Numeral)
    (hlength : sign = .unsigned → n.digits.length ≤ 4) (hrest : Stops Char.isDigit rest) :
    year? (before ++ (sign.chars ++ (n.digits ++ rest))) = some (sign.signed n.value, rest) := by
  have htrim := Text.trimStartChars_of_head? (sign.isBlank_head? n rest)
  rw [year?, Text.trimStartChars_append hbefore, htrim]
  cases sign with
  | plus =>
    have hread := digits?_append none n (by simp) hrest
    simp [YearSign.chars, YearSign.signed, hread]
  | minus =>
    have hread := digits?_append none n (by simp) hrest
    simp [YearSign.chars, YearSign.signed, hread]
  | unsigned =>
    have hread := digits?_append (some 4) n (fun k hk => Option.some.inj hk ▸ hlength rfl) hrest
    obtain ⟨c, hdigit, hc⟩ := n.head?_append_isDigit rest
    rw [YearSign.chars, List.nil_append]
    split
    · next heq =>
      rw [heq] at hc
      obtain rfl := Option.some.inj hc
      cases hdigit
    · next heq =>
      rw [heq] at hc
      obtain rfl := Option.some.inj hc
      cases hdigit
    · rw [hread]
      rfl

theorem exists_of_year? {y : Int} (h : year? cs = some (y, rest)) :
    ∃ before sign, ∃ n : Numeral, Blanks before ∧ cs = before ++ (YearSign.chars sign ++ (n.digits ++ rest)) ∧
      sign.signed n.value = y ∧ (sign = .unsigned → n.digits.length ≤ 4) := by
  obtain ⟨before, hbefore, hcs⟩ := Text.exists_blanks_trimStartChars cs
  rw [year?] at h
  split at h
  · next more hmore =>
    obtain ⟨⟨v, rest'⟩, hread, heq⟩ := Option.map_eq_some_iff.mp h
    obtain ⟨rfl, rfl⟩ := Prod.mk.inj heq
    obtain ⟨n, rfl, rfl, -⟩ := exists_numeral_of_digits? hread
    rw [hmore] at hcs
    exact ⟨before, .minus, n, hbefore, hcs, rfl, nofun⟩
  · next more hmore =>
    obtain ⟨⟨v, rest'⟩, hread, heq⟩ := Option.map_eq_some_iff.mp h
    obtain ⟨rfl, rfl⟩ := Prod.mk.inj heq
    obtain ⟨n, rfl, rfl, -⟩ := exists_numeral_of_digits? hread
    rw [hmore] at hcs
    exact ⟨before, .plus, n, hbefore, hcs, rfl, nofun⟩
  · obtain ⟨⟨v, rest'⟩, hread, heq⟩ := Option.map_eq_some_iff.mp h
    obtain ⟨rfl, rfl⟩ := Prod.mk.inj heq
    obtain ⟨n, hn, rfl, hlength⟩ := exists_numeral_of_digits? hread
    rw [hn] at hcs
    exact ⟨before, .unsigned, n, hbefore, hcs, rfl, fun _ => hlength 4 rfl⟩

theorem part?_append {before : List Char} (hbefore : Blanks before) (n : Numeral) (hlength : n.digits.length ≤ 2)
    (hrest : Stops Char.isDigit rest) : part? ('-' :: (before ++ (n.digits ++ rest))) = some (n.value, rest) := by
  have hread := digits?_append (some 2) n (fun k hk => Option.some.inj hk ▸ hlength) hrest
  have htrim := Text.trimStartChars_of_head? (YearSign.unsigned.isBlank_head? n rest)
  rw [part?, Text.trimStartChars_append hbefore]
  exact (congrArg (digits? (some 2)) htrim).trans hread

theorem exists_of_part? {v : Nat} (h : part? cs = some (v, rest)) :
    ∃ before, ∃ n : Numeral, Blanks before ∧ cs = '-' :: (before ++ (n.digits ++ rest)) ∧ n.value = v ∧
      n.digits.length ≤ 2 := by
  rw [part?.eq_def] at h
  split at h
  · next more =>
    obtain ⟨before, hbefore, hmore⟩ := Text.exists_blanks_trimStartChars more
    obtain ⟨n, hn, rfl, hlength⟩ := exists_numeral_of_digits? h
    exact ⟨before, n, hbefore, by rw [← hn, ← hmore], rfl, hlength 2 rfl⟩
  · cases h

/-- The reader takes every spelling of a valid day. -/
theorem read?_chars (p : Spelling) : read? p.chars = if p.date.Valid then some p.date else none := by
  obtain ⟨hblanksYear, hblanksMonth, hblanksDay⟩ := p.blanks
  have hstops : ∀ rest, Stops Char.isDigit ('-' :: rest) := fun rest => stops_cons rfl
  have hyear := year?_append hblanksYear p.sign p.year p.yearLength
    (hstops (p.beforeMonth ++ (p.month.digits ++ '-' :: (p.beforeDay ++ p.day.digits))))
  have hmonth := part?_append hblanksMonth p.month p.monthLength (hstops (p.beforeDay ++ p.day.digits))
  have hday := part?_append hblanksDay p.day p.dayLength stops_nil
  rw [List.append_nil] at hday
  simp only [read?, Spelling.chars, hyear, hmonth, hday, Option.bind_eq_bind, Option.bind_some, true_and]
  rfl

/-- In the form `YYYY-MM-DD` the reader takes the days of the calendar. -/
theorem read?_formChars {year month day : Nat} (hyear : year ≤ 9999) (hmonth : month ≤ 99) (hday : day ≤ 99) :
    (InCalendar year month day → read? (formChars year month day) = some ⟨year, month, day⟩) ∧
      (¬InCalendar year month day → read? (formChars year month day) = none) := by
  have hread := read?_chars (.inForm year month day hyear hmonth hday)
  rw [Spelling.chars_inForm, Spelling.date_inForm] at hread
  have hvalid : (Date.mk year month day).Valid ↔ InCalendar year month day := by
    have hyears : firstYear ≤ (year : Int) ∧ (year : Int) ≤ lastYear := by
      unfold firstYear lastYear
      omega
    exact valid_iff.trans (and_iff_right hyears)
  rw [hread]
  exact ⟨fun h => if_pos (hvalid.mpr h), fun h => if_neg (mt hvalid.mp h)⟩

/-- What is read is a spelling of a valid day. -/
theorem read?_eq_some_iff {d : Date} : read? cs = some d ↔ ∃ p : Spelling, p.chars = cs ∧ p.date = d ∧ d.Valid := by
  constructor
  · intro h
    have hvalid := valid_of_read? h
    simp only [read?, Option.bind_eq_bind, Option.bind_eq_some_iff] at h
    obtain ⟨⟨y, afterYear⟩, hyear, ⟨m, afterMonth⟩, hmonth, ⟨n, afterDay⟩, hday, h⟩ := h
    obtain ⟨beforeYear, sign, year, hblanksYear, rfl, rfl, hyearLength⟩ := exists_of_year? hyear
    obtain ⟨beforeMonth, month, hblanksMonth, rfl, rfl, hmonthLength⟩ := exists_of_part? hmonth
    obtain ⟨beforeDay, day, hblanksDay, rfl, rfl, hdayLength⟩ := exists_of_part? hday
    split at h
    · next hend =>
      obtain ⟨rfl, -⟩ := hend
      obtain rfl := Option.some.inj h
      exact ⟨⟨beforeYear, sign, year, beforeMonth, month, beforeDay, day, ⟨hblanksYear, hblanksMonth, hblanksDay⟩,
        hyearLength, hmonthLength, hdayLength⟩, by rw [Spelling.chars, List.append_nil], rfl, hvalid⟩
    · cases h
  · rintro ⟨p, rfl, rfl, hvalid⟩
    rw [read?_chars, if_pos hvalid]

end Audience.Date
