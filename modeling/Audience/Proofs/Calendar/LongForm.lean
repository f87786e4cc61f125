import Audience.Proofs.Calendar.Gregorian
import Audience.Proofs.Number.Natural
import Audience.Proofs.Text.Cutting
import Audience.Proofs.Text.Lowering

/-!
The language of days in Spanish long form. A text is read when it is a weekday without a comma, a comma, a number with an
optional plus sign, `de` between single spaces and the name of a month, with blanks where blanks may be and letters in
any case, and the number is a day of that month in a leap year (`DayMonth.reads_long_forms`).
-/

namespace Audience.DayMonth

open Reading (signed)
open Text

/-! ### The parts of a text -/

/-- A day of the year as it may be written, up to the month: the weekday, the comma, the number and the word behind it
with its two spaces. -/
structure Opening where
  weekday : List Char
  beforeDay : List Char
  plus : Bool
  day : Numeral
  afterDay : List Char
  word : List Char
  noComma : ',' ∉ weekday
  blanksBefore : Blanks beforeDay
  blanksAfter : Blanks afterDay
  wordLetters : InAnyCase ['d', 'e'] word

/-- What follows the comma and the blanks. -/
def Opening.counted (o : Opening) : List Char := signed o.plus o.day ++ (o.afterDay ++ (' ' :: (o.word ++ [' '])))

/-- The text of the opening. -/
def Opening.chars (o : Opening) : List Char := o.weekday ++ ',' :: (o.beforeDay ++ o.counted)

/-- The names of the months. -/
def spanishMonths : List String :=
  ["enero", "febrero", "marzo", "abril", "mayo", "junio", "julio", "agosto", "septiembre", "octubre", "noviembre",
    "diciembre"]

/-- A day of the year as it may be written. -/
structure LongForm extends Opening where
  beforeMonth : List Char
  month : Fin spanishMonths.length
  monthName : List Char
  afterMonth : List Char
  blanksBeforeMonth : Blanks beforeMonth
  blanksAfterMonth : Blanks afterMonth
  monthLetters : InAnyCase (spanishMonths.get month).toList monthName

/-- What stands behind the word and its spaces. -/
def LongForm.ending (p : LongForm) : List Char := p.beforeMonth ++ (p.monthName ++ p.afterMonth)

/-- The text of the day. -/
def LongForm.chars (p : LongForm) : List Char := p.toOpening.chars ++ p.ending

/-- The day that is written. -/
def LongForm.dayMonth (p : LongForm) : DayMonth := ⟨p.month.val + 1, p.day.value⟩

variable {text : String} {d : DayMonth} {cs tail : List Char} {c : Char}

/-! ### Names of months -/

theorem monthNames_eq : monthNames = spanishMonths := rfl

theorem isLower_of_mem_spanishMonths (month : Fin spanishMonths.length) :
    ∀ c ∈ (spanishMonths.get month).toList, c.isLower = true ∧ c ≠ 'k' := by
  have hall : ∀ name ∈ spanishMonths, (name.toList.all fun c => c.isLower && c != 'k') = true := by decide +kernel
  intro c hc
  simpa using List.all_eq_true.mp (hall _ (List.get_mem spanishMonths month)) c hc

theorem isAlpha_of_mem_spanishMonths (month : Fin spanishMonths.length) :
    ∀ c ∈ (spanishMonths.get month).toList, c.isAlpha = true :=
  (InAnyCase.refl _).isAlpha fun c hc => (isLower_of_mem_spanishMonths month c hc).1

theorem plain_word : ∀ c ∈ ['d', 'e'], Plain c ∧ c ≠ 'k' := by
  simp only [List.forall_mem_cons]
  exact ⟨by decide, by decide, List.forall_mem_nil _⟩

theorem isLower_word : ∀ c ∈ ['d', 'e'], c.isLower = true := by simp

theorem inAnyCase_word_iff : InAnyCase ['d', 'e'] cs ↔ cs.map Char.toLower = ['d', 'e'] :=
  inAnyCase_iff fun c hc => Char.not_isUpper_of_isLower (isLower_word c hc)

theorem inAnyCase_monthName_iff {month : Fin spanishMonths.length} :
    InAnyCase (spanishMonths.get month).toList cs ↔ cs.map Char.toLower = (spanishMonths.get month).toList :=
  inAnyCase_iff fun c hc => Char.not_isUpper_of_isLower (isLower_of_mem_spanishMonths month c hc).1

/-- A text names a month when it is the name between blanks once it is in lower case. -/
theorem monthNumber?_eq_some_iff {m : Nat} : monthNumber? (String.ofList cs) = some m ↔
    ∃ month : Fin spanishMonths.length, lowerChars (trimChars cs) = (spanishMonths.get month).toList ∧ m = month.val + 1 := by
  have hlower : (lower (trim (String.ofList cs))).toList = lowerChars (trimChars cs) := by
    rw [lower, String.toList_ofList, toList_trim, String.toList_ofList]
  have hdistinct : spanishMonths.Nodup := by decide +kernel
  rw [monthNumber?, monthNames_eq, Option.map_eq_some_iff]
  constructor
  · rintro ⟨i, hi, rfl⟩
    obtain ⟨hlt, hname, -⟩ := List.idxOf?_eq_some_iff.mp hi
    refine ⟨⟨i, hlt⟩, ?_, rfl⟩
    rw [← hlower, ← hname]
    rfl
  · rintro ⟨month, hname, rfl⟩
    have hget : spanishMonths[month.val] = lower (trim (String.ofList cs)) :=
      String.toList_injective (hname.symm.trans hlower.symm)
    refine ⟨month, List.idxOf?_eq_some_iff.mpr ⟨month.isLt, hget, fun j hj hsame => ?_⟩, rfl⟩
    have hindex := (hdistinct.getElem_inj_iff).mp (hsame.trans hget.symm)
    omega

/-! ### Numbers -/

theorem caseless_signed (plus : Bool) (num : Numeral) : ∀ c ∈ signed plus num, Caseless c := by
  intro c hc
  rcases List.mem_append.mp hc with hplus | hdigits
  · cases plus with
    | true =>
      obtain rfl := List.mem_singleton.mp hplus
      decide
    | false => cases hplus
  · exact caseless_of_isDigit (num.areDigits c hdigits)

theorem trimmed_signed (plus : Bool) (num : Numeral) : Trimmed (signed plus num) where
  head := by
    intro c hc
    cases plus with
    | true =>
      obtain rfl := Option.some.inj hc
      decide
    | false =>
      obtain ⟨d, hdigit, hd⟩ := num.head?_isDigit
      obtain rfl := Option.some.inj (hd.symm.trans hc)
      exact isBlank_of_isDigit hdigit
  last := by
    intro c hc
    obtain ⟨d, hdigit, hd⟩ := num.getLast?_isDigit
    rw [signed, List.getLast?_append, hd, Option.some_or] at hc
    obtain rfl := Option.some.inj hc
    exact isBlank_of_isDigit hdigit

theorem signed_ne_nil (plus : Bool) (num : Numeral) : signed plus num ≠ [] :=
  List.append_ne_nil_of_right_ne_nil _ num.nonempty

/-! ### Up to the month -/

namespace Opening

variable (o : Opening)

/-- The number with the blanks behind it. -/
def number : List Char := signed o.plus o.day ++ o.afterDay

theorem counted_eq : o.counted = o.number ++ (' ' :: (o.word ++ [' '])) := by
  rw [counted, number, List.append_assoc]

theorem caseless_number : ∀ c ∈ o.number, Caseless c :=
  List.forall_mem_append.mpr ⟨caseless_signed o.plus o.day, fun c hc => caseless_of_isBlank (o.blanksAfter c hc)⟩

theorem plain_counted : ∀ c ∈ o.counted, Plain c := by
  have hword : ∀ c ∈ o.word, Plain c := fun c hc => plain_of_isAlpha (o.wordLetters.isAlpha isLower_word c hc)
  have hspace : Plain ' ' := by decide
  rw [counted_eq, List.forall_mem_append, List.forall_mem_cons, List.forall_mem_append, List.forall_mem_singleton]
  exact ⟨fun c hc => (o.caseless_number c hc).1, hspace, hword, hspace⟩

theorem map_toLower_counted : o.counted.map Char.toLower = o.number ++ [' ', 'd', 'e', ' '] := by
  rw [counted_eq, List.map_append, (map_toLower_eq_iff o.caseless_number).mpr rfl, List.map_cons, List.map_append,
    inAnyCase_word_iff.mp o.wordLetters]
  rfl

theorem head?_counted (tail : List Char) : ∀ c ∈ (o.counted ++ tail).head?, isBlank c = false := by
  rw [counted, List.append_assoc, List.head?_append_of_ne_nil _ (signed_ne_nil o.plus o.day)]
  exact (trimmed_signed o.plus o.day).head

theorem cut_comma (tail : List Char) :
    splitOnce [','] (String.ofList (o.chars ++ tail)).toList = some (o.weekday, o.beforeDay ++ (o.counted ++ tail)) := by
  rw [splitOnce_singleton_eq_some_iff, String.toList_ofList, chars]
  refine ⟨?_, o.noComma⟩
  simp only [List.append_assoc, List.cons_append]

/-- The separator is found behind the number, whatever stands after it. -/
theorem cut_word (h : ¬Blanks tail) :
    splitOnce [' ', 'd', 'e', ' '] (lowerChars (trimChars (o.beforeDay ++ (o.counted ++ tail)))) =
      some (o.number, lowerFrom o.counted.reverse (trimEndChars tail)) := by
  have hletter : 'd' ∉ o.number := fun hd => (o.caseless_number 'd' hd).ne rfl rfl
  rw [trimChars_append o.blanksBefore (o.head?_counted tail), trimEndChars_append_of_not_blanks h, lowerChars,
    lowerFrom_append o.plain_counted, map_toLower_counted, List.append_nil, List.append_assoc]
  exact splitOnce_append (by decide) hletter _

theorem trimChars_number : trimChars o.number = signed o.plus o.day :=
  trimChars_between blanks_nil o.blanksAfter (trimmed_signed o.plus o.day)

/-- A number past the limit is no day, whatever stands after it. -/
theorem read_of_limit_lt (h : ¬Blanks tail) (hlimit : dayLimit < o.day.value) :
    read (String.ofList (o.chars ++ tail)) = .error (.invalidDay (String.ofList (signed o.plus o.day))) := by
  simp only [read, o.cut_comma, o.cut_word h, trimChars_number, Reading.natural_signed, if_neg (Nat.not_le.mpr hlimit)]

end Opening

/-! ### The month -/

namespace LongForm

variable (p : LongForm)

theorem isAlpha_monthName : ∀ c ∈ p.monthName, c.isAlpha = true :=
  p.monthLetters.isAlpha fun c hc => (isLower_of_mem_spanishMonths p.month c hc).1

theorem map_toLower_monthName : p.monthName.map Char.toLower = (spanishMonths.get p.month).toList :=
  inAnyCase_monthName_iff.mp p.monthLetters

theorem not_blanks_monthName : ¬Blanks p.monthName := by
  have hall : ∀ name ∈ spanishMonths, name.toList ≠ [] := by decide
  intro h
  have hname := p.map_toLower_monthName
  cases hmonth : p.monthName with
  | nil =>
    rw [hmonth] at hname
    exact hall _ (List.get_mem spanishMonths p.month) hname.symm
  | cons c cs =>
    have hc : c ∈ p.monthName := hmonth ▸ List.mem_cons_self
    have hletter := isAlpha_of_isBlank (h c hc)
    rw [p.isAlpha_monthName c hc] at hletter
    cases hletter

theorem not_blanks_ending : ¬Blanks p.ending := fun h =>
  p.not_blanks_monthName (blanks_append_iff.mp (blanks_append_iff.mp h).2).1

theorem trimEndChars_ending : trimEndChars p.ending = p.beforeMonth ++ p.monthName := by
  rw [ending, ← List.append_assoc, trimEndChars_append p.blanksAfterMonth,
    trimEndChars_append_of_not_blanks p.not_blanks_monthName, (trimmed_of_isAlpha p.isAlpha_monthName).trimEndChars_eq]

theorem lowerFrom_ending (before : List Char) :
    lowerFrom before (trimEndChars p.ending) = p.beforeMonth ++ (spanishMonths.get p.month).toList := by
  have hblanks : ∀ c ∈ p.beforeMonth, Caseless c := fun c hc => caseless_of_isBlank (p.blanksBeforeMonth c hc)
  have hname : ∀ c ∈ p.monthName, Plain c := fun c hc => plain_of_isAlpha (p.isAlpha_monthName c hc)
  rw [trimEndChars_ending, lowerFrom_append fun c hc => (hblanks c hc).1, lowerFrom_of_plain hname,
    (map_toLower_eq_iff hblanks).mpr rfl, map_toLower_monthName]

theorem monthNumber?_ending :
    monthNumber? (String.ofList (p.beforeMonth ++ (spanishMonths.get p.month).toList)) = some p.dayMonth.month := by
  have hletters := isAlpha_of_mem_spanishMonths p.month
  have htrimmed := trimmed_of_isAlpha hletters
  refine monthNumber?_eq_some_iff.mpr ⟨p.month, ?_, rfl⟩
  rw [trimChars_append p.blanksBeforeMonth htrimmed.head, htrimmed.trimEndChars_eq, lowerChars,
    lowerFrom_of_plain fun c hc => plain_of_isAlpha (hletters c hc)]
  exact inAnyCase_monthName_iff.mp (.refl _)

theorem read_eq_ok (h : p.dayMonth.InLeapYear) : read (String.ofList p.chars) = .ok p.dayMonth := by
  obtain ⟨-, -, hpos, hle⟩ := inLeapYear_iff.mp h
  have hlimit : p.day.value ≤ dayLimit := by
    have hdays := daysInMonth_le true p.dayMonth.month
    have hday : p.day.value ≤ 31 := hle.trans hdays
    exact hday.trans (by decide)
  refine read_eq_ok_iff.mpr ⟨p.weekday, _, p.number, _, p.cut_comma p.ending, p.cut_word p.not_blanks_ending, ?_, ?_, hpos,
    hle⟩
  · rw [p.trimChars_number, Reading.natural_signed, if_pos hlimit]
    rfl
  · rw [p.lowerFrom_ending, p.monthNumber?_ending]

end LongForm

/-! ### The parts of what is read -/

/-- A name of a month has only plain characters, whatever case they are in. -/
theorem plain_of_lowerChars_monthName {month : Fin spanishMonths.length}
    (h : lowerChars cs = (spanishMonths.get month).toList) : ∀ c ∈ cs, Plain c ∧ c ≠ 'k' := by
  have hmonth := isLower_of_mem_spanishMonths month
  have hplain : ∀ c ∈ cs, Plain c := plain_of_lowerFrom fun c hc =>
    have hmem : c ∈ (spanishMonths.get month).toList := h ▸ hc
    ⟨plain_of_isAlpha (isAlpha_of_mem_spanishMonths month c hmem), (hmonth c hmem).2⟩
  refine fun c hc => ⟨hplain c hc, ?_⟩
  rintro rfl
  rw [lowerChars, lowerFrom_of_plain hplain] at h
  exact (hmonth 'k' (h ▸ List.mem_map_of_mem hc)).2 rfl

/-- The parts of a text that goes to lower case as a number, the word and a name. Only the word and the name have
letters, so the rest stands in the text as it is. -/
theorem exists_parts {front beforeMonth name afterMonth : List Char} {month : Fin spanishMonths.length}
    (hfront : ∀ c ∈ front, Caseless c) (hbefore : ∀ c ∈ beforeMonth, Caseless c) (hafter : ∀ c ∈ afterMonth, Caseless c)
    (hname : lowerChars name = (spanishMonths.get month).toList)
    (h : lowerChars cs = front ++ ([' '] ++ (['d', 'e'] ++ [' '])) ++ (beforeMonth ++ (name ++ afterMonth))) :
    ∃ word letters, InAnyCase ['d', 'e'] word ∧ InAnyCase (spanishMonths.get month).toList letters ∧
      cs = front ++ ([' '] ++ (word ++ [' '])) ++ (beforeMonth ++ (letters ++ afterMonth)) := by
  have hnamePlain := plain_of_lowerChars_monthName hname
  have hspace : ∀ c ∈ [' '], Caseless c := List.forall_mem_singleton.mpr (by decide)
  have hcaseless : ∀ {c}, Caseless c → Plain c ∧ c ≠ 'k' := fun hc => ⟨hc.1, hc.ne rfl⟩
  have hlower : ∀ c ∈ lowerChars cs, Plain c ∧ c ≠ 'k' := by
    intro c hc
    rw [h] at hc
    simp only [List.mem_append] at hc
    rcases hc with (hc | hc | hc | hc) | hc | hc | hc
    · exact hcaseless (hfront c hc)
    · exact hcaseless (hspace c hc)
    · exact plain_word c hc
    · exact hcaseless (hspace c hc)
    · exact hcaseless (hbefore c hc)
    · exact hnamePlain c hc
    · exact hcaseless (hafter c hc)
  have hplain : ∀ c ∈ cs, Plain c := plain_of_lowerFrom hlower
  rw [lowerChars, lowerFrom_of_plain hplain] at h
  rw [lowerChars, lowerFrom_of_plain fun c hc => (hnamePlain c hc).1] at hname
  -- A plain text goes to lower case character by character, so where its lower case is cut the text is cut too.
  obtain ⟨opening, ending, rfl, hopening, hending⟩ := List.map_eq_append_iff.mp h
  obtain ⟨number, separator, rfl, hnumber, hseparator⟩ := List.map_eq_append_iff.mp hopening
  obtain ⟨space, rest, rfl, hfirst, hrest⟩ := List.map_eq_append_iff.mp hseparator
  obtain ⟨word, space', rfl, hword, hlast⟩ := List.map_eq_append_iff.mp hrest
  obtain ⟨blanks, ending, rfl, hblanks, hending⟩ := List.map_eq_append_iff.mp hending
  obtain ⟨letters, blanks', rfl, hletters, hblanks'⟩ := List.map_eq_append_iff.mp hending
  obtain rfl := (map_toLower_eq_iff hfront).mp hnumber
  obtain rfl := (map_toLower_eq_iff hspace).mp hfirst
  obtain rfl := (map_toLower_eq_iff hspace).mp hlast
  obtain rfl := (map_toLower_eq_iff hbefore).mp hblanks
  obtain rfl := (map_toLower_eq_iff hafter).mp hblanks'
  have hmonth : letters.map Char.toLower = (spanishMonths.get month).toList := by
    rw [← hname, ← hletters, List.map_map]
    exact List.map_congr_left fun c _ => (Char.toLower_toLower_eq_toLower c).symm
  exact ⟨word, letters, inAnyCase_word_iff.mpr hword, inAnyCase_monthName_iff.mpr hmonth, rfl⟩

/-- What is read is a day in long form. -/
theorem exists_longForm (h : read text = .ok d) : ∃ p : LongForm, String.ofList p.chars = text ∧ p.dayMonth = d := by
  obtain ⟨weekday, rest, day, month, hcomma, hword, hday, hmonth, -⟩ := read_eq_ok_iff.mp h
  obtain ⟨htext, hnoComma⟩ := splitOnce_singleton_eq_some_iff.mp hcomma
  obtain ⟨plus, num, hnum, hvalue, -⟩ := Reading.natural_eq_ok_iff.mp hday
  obtain ⟨i, hname, hi⟩ := monthNumber?_eq_some_iff.mp hmonth
  obtain ⟨before, after, hbefore, hafter, houter⟩ := exists_blanks_trimChars rest
  obtain ⟨beforeDay, afterDay, hbeforeDay, hafterDay, hdayChars⟩ := exists_blanks_trimChars day
  obtain ⟨beforeMonth, afterMonth, hbeforeMonth, hafterMonth, hmonthChars⟩ := exists_blanks_trimChars month
  have hlower := append_of_splitOnce hword
  rw [hdayChars, hnum, hmonthChars] at hlower
  have hblanks : ∀ {bs}, Blanks bs → ∀ c ∈ bs, Caseless c := fun hbs c hc => caseless_of_isBlank (hbs c hc)
  have hfront : ∀ c ∈ beforeDay ++ (signed plus num ++ afterDay), Caseless c :=
    List.forall_mem_append.mpr ⟨hblanks hbeforeDay,
      List.forall_mem_append.mpr ⟨caseless_signed plus num, hblanks hafterDay⟩⟩
  obtain ⟨word, letters, hwordLetters, hmonthLetters, hparts⟩ :=
    exists_parts hfront (hblanks hbeforeMonth) (hblanks hafterMonth) hname hlower
  refine ⟨{
    weekday, plus, word, beforeMonth
    beforeDay := before ++ beforeDay
    day := num
    afterDay := afterDay
    month := i
    monthName := letters
    afterMonth := afterMonth ++ after
    noComma := hnoComma
    blanksBefore := blanks_append_iff.mpr ⟨hbefore, hbeforeDay⟩
    blanksAfter := hafterDay
    wordLetters := hwordLetters
    blanksBeforeMonth := hbeforeMonth
    blanksAfterMonth := blanks_append_iff.mpr ⟨hafterMonth, hafter⟩
    monthLetters := hmonthLetters }, ?_, ?_⟩
  · rw [← String.toList_inj, String.toList_ofList, htext, houter, hparts]
    simp [LongForm.chars, LongForm.ending, Opening.chars, Opening.counted]
  · rw [LongForm.dayMonth, hvalue, ← hi]

/-! ### The language -/

theorem exists_dayMonth_eq (h : d.InLeapYear) : ∃ p : LongForm, p.dayMonth = d := by
  obtain ⟨hlow, hhigh, -⟩ := inLeapYear_iff.mp h
  have hlength : spanishMonths.length = 12 := rfl
  obtain ⟨month, hmonth⟩ : ∃ month : Fin spanishMonths.length, month.val + 1 = d.month :=
    ⟨⟨d.month - 1, by omega⟩, by simp only; omega⟩
  refine ⟨{
    weekday := [], beforeDay := [], plus := false, day := .padded 1 d.day, afterDay := [], word := ['d', 'e']
    beforeMonth := [], month, monthName := (spanishMonths.get month).toList, afterMonth := []
    noComma := List.not_mem_nil
    blanksBefore := blanks_nil
    blanksAfter := blanks_nil
    wordLetters := .refl _
    blanksBeforeMonth := blanks_nil
    blanksAfterMonth := blanks_nil
    monthLetters := .refl _ }, ?_⟩
  rw [LongForm.dayMonth, Numeral.value_padded, hmonth]

/-- The texts that are read are the long forms of the days that some leap year has, and every such day has one; a name
of a month is in letters of ASCII. Every other text is an error, one with a number past the limit on account of the
number. -/
theorem reads_long_forms :
    (∀ text d, read text = .ok d ↔ ∃ p : LongForm, String.ofList p.chars = text ∧ p.dayMonth = d ∧ d.InLeapYear) ∧
    (∀ d : DayMonth, d.InLeapYear → ∃ p : LongForm, p.dayMonth = d) ∧
    (∀ p : LongForm, ∀ c ∈ p.monthName, c.isAlpha = true) ∧
    (∀ text, (∃ p : LongForm, String.ofList p.chars = text ∧ p.dayMonth.InLeapYear) ∨ ∃ e, read text = .error e) ∧
    (∀ (o : Opening) tail, ¬Blanks tail → dayLimit < o.day.value →
      read (String.ofList (o.chars ++ tail)) = .error (.invalidDay (String.ofList (signed o.plus o.day)))) := by
  have hlanguage : ∀ text d, read text = .ok d ↔
      ∃ p : LongForm, String.ofList p.chars = text ∧ p.dayMonth = d ∧ d.InLeapYear := by
    intro text d
    constructor
    · intro h
      obtain ⟨p, htext, hday⟩ := exists_longForm h
      exact ⟨p, htext, hday, inLeapYear_iff.mpr (valid_of_read h)⟩
    · rintro ⟨p, rfl, rfl, hleap⟩
      exact p.read_eq_ok hleap
  refine ⟨hlanguage, fun d => exists_dayMonth_eq, LongForm.isAlpha_monthName, fun text => ?_,
    fun o tail => o.read_of_limit_lt⟩
  cases h : read text with
  | error e => exact .inr ⟨e, rfl⟩
  | ok d =>
    obtain ⟨p, htext, rfl, hleap⟩ := (hlanguage text d).mp h
    exact .inl ⟨p, htext, hleap⟩

theorem reads_long_forms_in_february :
    read "sábado,\u00a0+029\t DE  Febrero " = .ok ⟨2, 29⟩ ∧
    read "lunes, 4294967297 de enero" = .error (.invalidDay "4294967297") := by
  obtain ⟨hlanguage, -, -, -, hlimit⟩ := reads_long_forms
  constructor
  · refine (hlanguage _ _).mpr ⟨{
      weekday := "sábado".toList, beforeDay := ['\u00a0'], plus := true
      day := ⟨['0', '2', '9'], by simp, by simp⟩
      afterDay := ['\t'], word := ['D', 'E']
      beforeMonth := [' '], month := ⟨1, by decide⟩, monthName := "Febrero".toList, afterMonth := [' ']
      noComma := by decide
      blanksBefore := List.forall_mem_singleton.mpr rfl
      blanksAfter := List.forall_mem_singleton.mpr rfl
      wordLetters := inAnyCase_word_iff.mpr rfl
      blanksBeforeMonth := List.forall_mem_singleton.mpr rfl
      blanksAfterMonth := List.forall_mem_singleton.mpr rfl
      monthLetters := inAnyCase_monthName_iff.mpr (by decide +kernel) },
      by decide +kernel, by decide +kernel, inLeapYear_iff.mpr (by decide)⟩
  · refine hlimit {
      weekday := "lunes".toList, beforeDay := [' '], plus := false
      day := .padded 1 4294967297
      afterDay := [], word := ['d', 'e']
      noComma := by decide
      blanksBefore := List.forall_mem_singleton.mpr rfl
      blanksAfter := blanks_nil
      wordLetters := .refl _ } "enero".toList ?_ ?_
    · intro h
      cases h 'e' List.mem_cons_self
    · rw [Numeral.value_padded]
      decide

end Audience.DayMonth
