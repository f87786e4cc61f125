import Audience.Proofs.Calendar.Spelling
import Audience.Proofs.Filter.FirstError

/-!
What the rule for dates binds. It takes the values whose text, up to a time of day, spells a day of the calendar, and
binds the spelling as it stands (`bound_date_is_spelled`): in the form `YYYY-MM-DD` only when it came so. What is bound is
taken again and stays the same, and a day that comes in that form is taken with whatever blanks and time around it
(`compile_date_in_form`).
-/

namespace Audience

open Condition Text

/-- The column is known and compared by day: it holds dates or is the one named for them, and the campaign does not
compare it by day and month. -/
structure ComparedByDay (columns : Columns) (campaign : CampaignKind) (column : String) : Prop where
  known : ∃ type, columns.get? column = some type ∧ (type = .date ∨ column = dateTimeColumn)
  notDue : comparesDayMonth campaign column = false

namespace Condition

variable {columns : Columns} {campaign : CampaignKind} {f : FilterSpec} {cs rest : List Char} {j : Json} {s date : String}

/-! ### The date in a text -/

/-- What follows starts with a time of day. -/
def Timed (rest : List Char) : Prop := rest.head? = some 'T' ∨ rest.head? = some ' '

theorem beforeTime_append (h : 'T' ∉ cs ∧ ' ' ∉ cs) (hrest : rest = [] ∨ Timed rest) :
    beforeTime (cs ++ rest) = cs := by
  refine Reading.takeWhile_append (fun c hc => ?_) fun c hc => ?_
  · have hT : c ≠ 'T' := fun heq => h.1 (heq ▸ hc)
    have hblank : c ≠ ' ' := fun heq => h.2 (heq ▸ hc)
    simp [hT, hblank]
  · rcases hrest with rfl | hT | hblank
    · cases hc
    · obtain rfl := Option.some.inj (hT.symm.trans hc)
      rfl
    · obtain rfl := Option.some.inj (hblank.symm.trans hc)
      rfl

theorem not_mem_beforeTime (cs : List Char) : 'T' ∉ beforeTime cs ∧ ' ' ∉ beforeTime cs := by
  have hall : ∀ c ∈ beforeTime cs, (c != 'T' && c != ' ') = true := List.all_eq_true.mp List.all_takeWhile
  exact ⟨fun h => absurd (hall _ h) (by decide), fun h => absurd (hall _ h) (by decide)⟩

theorem exists_timed (cs : List Char) : ∃ rest, cs = beforeTime cs ++ rest ∧ (rest = [] ∨ Timed rest) := by
  refine ⟨cs.dropWhile fun c => c != 'T' && c != ' ', List.takeWhile_append_dropWhile.symm, ?_⟩
  have hstop := List.head?_dropWhile_not (fun c => c != 'T' && c != ' ') cs
  split at hstop
  · next c hc =>
    rw [Bool.and_eq_false_iff, bne_eq_false_iff_eq, bne_eq_false_iff_eq] at hstop
    rcases hstop with rfl | rfl
    · exact .inr (.inl hc)
    · exact .inr (.inr hc)
  · next hnone => exact .inl (List.head?_eq_none_iff.mp hnone)

/-- The part of a text that is read as a date. -/
def datePart (s : String) : List Char := beforeTime (trimChars s.toList)

theorem datePart_head? (s : String) : ∀ c ∈ (datePart s).head?, isBlank c = false := by
  intro c hc
  obtain ⟨rest, hrest, -⟩ := exists_timed (trimChars s.toList)
  have hhead : (beforeTime (trimChars s.toList)).head? = some c := hc
  refine (trimmed_trimChars s.toList).head c ?_
  rw [hrest, List.head?_append, hhead, Option.some_or]
  rfl

theorem datePart_between {before after : List Char} (hcs : Trimmed cs) (hne : cs ≠ []) (htime : 'T' ∉ cs ∧ ' ' ∉ cs)
    (hbefore : Blanks before) (hafter : Timed after ∨ Blanks after) :
    datePart (String.ofList (before ++ (cs ++ after))) = cs := by
  have hhead : ∀ c ∈ (cs ++ after).head?, isBlank c = false := by
    intro c hc
    rw [List.head?_append_of_ne_nil _ hne] at hc
    exact hcs.head c hc
  have htrim : trimEndChars (cs ++ after) = cs ++ trimEndChars after := by
    have hlast := List.getLast?_eq_some_getLast hne
    exact trimEndChars_append_of_getLast? hlast (hcs.last _ hlast) after
  have hrest : trimEndChars after = [] ∨ Timed (trimEndChars after) := by
    rcases hafter with htimed | hblanks
    · rcases trimEndChars_eq_nil_or_head? after with hnil | hsame
      · exact .inl hnil
      · exact .inr (by rwa [Timed, hsame])
    · exact .inl (trimEndChars_append hblanks [])
  rw [datePart, String.toList_ofList, trimChars_append hbefore hhead, htrim, beforeTime_append htime hrest]

/-- What was read as a date is read whole the next time. -/
theorem datePart_chars {p : Date.Spelling} (h : p.chars = datePart s) :
    datePart (String.ofList p.chars) = p.chars := by
  have hbefore : p.beforeYear = [] := p.beforeYear_eq_nil (by rw [h]; exact datePart_head? s)
  have htime : beforeTime (p.chars ++ []) = p.chars :=
    beforeTime_append (by rw [h]; exact not_mem_beforeTime _) (.inl rfl)
  rw [List.append_nil] at htime
  rw [datePart, String.toList_ofList, (p.trimmed hbefore).trimChars_eq, htime]

theorem dateOf_str (s : String) : dateOf (.str s) =
    match Date.read? (datePart s) with
    | some _ => .ok (String.ofList (datePart s))
    | none => .error (.invalidDate (Json.str s).text) := rfl

theorem dateOf_eq_ok_iff : dateOf j = .ok date ↔
    ∃ s, ∃ p : Date.Spelling, j = .str s ∧ p.chars = datePart s ∧ p.date.Valid ∧ date = String.ofList p.chars := by
  constructor
  · intro h
    cases j with
    | str s =>
      rw [dateOf_str] at h
      split at h
      · next d hread =>
        obtain ⟨p, hp, rfl, hvalid⟩ := Date.read?_eq_some_iff.mp hread
        exact ⟨s, p, rfl, hp, hvalid, hp ▸ (Except.ok.inj h).symm⟩
      · cases h
    | _ => cases h
  · rintro ⟨s, p, rfl, hp, hvalid, rfl⟩
    have hread := Date.read?_eq_some_iff.mpr ⟨p, hp, rfl, hvalid⟩
    rw [dateOf_str, hread, hp]

/-- What was bound as a date is bound again. -/
theorem dateOf_again (h : dateOf j = .ok date) : dateOf (.str date) = .ok date := by
  obtain ⟨s, p, rfl, hp, hvalid, rfl⟩ := dateOf_eq_ok_iff.mp h
  exact dateOf_eq_ok_iff.mpr ⟨_, p, rfl, (datePart_chars hp).symm, hvalid, rfl⟩

/-! ### Filters under the rule -/

/-- The texts that every row passes hold no date. -/
theorem isWildcard_eq_false (hvalue : f.value = .str s) (h : datePart s ≠ []) : f.isWildcard = false := by
  rw [FilterSpec.isWildcard, hvalue, Bool.or_eq_false_iff, beq_eq_false_iff_ne, beq_eq_false_iff_ne]
  constructor
  · rintro rfl
    exact h (by decide)
  · rintro rfl
    exact h (by decide)

theorem ofFilter_of_comparedByDay (hrule : ComparedByDay columns campaign f.column) (chosen : f.isWildcard = false) :
    ofFilter columns campaign f = (dateOf f.value).map (.onDate f.column) := by
  obtain ⟨⟨type, hknown, htype⟩, hdue⟩ := hrule
  have hdated : comparesDate type f.column = true := by
    rw [comparesDate, Bool.or_eq_true, beq_iff_eq, beq_iff_eq]
    exact htype
  simp [ofFilter, chosen, hknown, hdue, hdated]

end Condition

variable {columns : Columns} {campaign : CampaignKind} {fs : List FilterSpec} {compiled : CompiledFilters} {i : Nat}
  {f : FilterSpec}

/-! ### What is bound -/

/-- A filter under the rule binds a spelling of a day. -/
theorem exists_date_of_compile {cs : List Condition} (hcs : AreConditions columns campaign fs cs) (hf : fs[i]? = some f)
    (chosen : f.isWildcard = false) (hrule : ComparedByDay columns campaign f.column) :
    ∃ date, dateOf f.value = .ok date ∧ cs[i]? = some (.onDate f.column date) := by
  obtain ⟨c, hc, hcondition⟩ := hcs.exists_condition hf
  rw [ofFilter_of_comparedByDay hrule chosen, map_eq_ok_iff] at hcondition
  obtain ⟨date, hdate, rfl⟩ := hcondition
  exact ⟨date, hdate, hc⟩

theorem get?_date {cs : List Condition} {column date : String} (hi : cs[i]? = some (.onDate column date)) :
    (CompiledFilters.ofConditions cs).params.get? (paramName i) = some (.string date) :=
  CompiledFilters.get?_params_eq_some_iff_mem.mpr ⟨i, _, hi, List.mem_singleton_self _⟩

/-- A filter under the rule binds the start of its value, up to a time of day, as it stands there. That is a spelling
of a day of the calendar, with no blanks in front. It has the form `YYYY-MM-DD` only when it is spelled in full, and then
it is the text of its day in that form. -/
theorem bound_date_is_spelled (columns : Columns) (campaign : CampaignKind) (fs : List FilterSpec)
    {compiled : CompiledFilters} (h : compile columns fs campaign = .ok compiled) {i : Nat} {f : FilterSpec}
    (hf : fs[i]? = some f) (chosen : f.isWildcard = false) (hrule : ComparedByDay columns campaign f.column) :
    ∃ p : Date.Spelling, compiled.params.get? (paramName i) = some (.string (String.ofList p.chars)) ∧
      InCalendar p.date.year p.date.month p.date.day ∧ p.beforeYear = [] ∧
      (∃ s rest, f.value = .str s ∧ trimChars s.toList = p.chars ++ rest ∧ (rest = [] ∨ Timed rest)) ∧
      (Date.HasForm p.chars ↔ p.Full) ∧
      (p.Full → p.chars = Date.formChars p.date.year.toNat p.date.month p.date.day) := by
  obtain ⟨cs, hcs, rfl⟩ := compile_eq_ok_iff.mp h
  obtain ⟨date, hdate, hi⟩ := exists_date_of_compile hcs hf chosen hrule
  obtain ⟨s, p, hvalue, hp, hvalid, rfl⟩ := dateOf_eq_ok_iff.mp hdate
  obtain ⟨rest, hrest, htimed⟩ := exists_timed (trimChars s.toList)
  refine ⟨p, get?_date hi, (Date.valid_iff.mp hvalid).2, p.beforeYear_eq_nil (hp ▸ datePart_head? s),
    ⟨s, rest, hvalue, hp ▸ hrest, htimed⟩, p.hasForm_iff, fun hfull => ?_⟩
  rw [hfull.chars_eq, Date.Spelling.date, hfull.unsigned]
  rfl

/-- A day without its zeros and with a time behind it is bound without its zeros. -/
theorem bound_date_is_spelled_without_zeros :
    ∃ compiled, compile (.ofList [("alta", .date)]) [⟨"edad", "", .null⟩, ⟨"alta", "", .str " 2024-5-1T10:00"⟩]
        .unspecified = .ok compiled ∧
      ∃ p : Date.Spelling, compiled.params.get? (paramName 1) = some (.string (String.ofList p.chars)) ∧
        InCalendar p.date.year p.date.month p.date.day ∧ p.chars = "2024-5-1".toList ∧ ¬p.Full := by
  have hcompile : compile (.ofList [("alta", .date)]) [⟨"edad", "", .null⟩, ⟨"alta", "", .str " 2024-5-1T10:00"⟩]
      .unspecified = .ok _ := rfl
  obtain ⟨p, hbound, hday, -, -, hform, -⟩ := bound_date_is_spelled _ _ _ hcompile (i := 1) rfl rfl
    ⟨⟨.date, rfl, .inl rfl⟩, rfl⟩
  have hchars : p.chars = "2024-5-1".toList := by
    have hvalue := hbound.symm.trans (show _ = some (Value.string "2024-5-1") from rfl)
    have htext : String.ofList p.chars = "2024-5-1" := Value.string.inj (Option.some.inj hvalue)
    rw [← htext, String.toList_ofList]
  refine ⟨_, hcompile, p, hbound, hday, hchars, fun hfull => ?_⟩
  have hlength := (hform.mpr hfull).length
  rw [hchars] at hlength
  exact absurd hlength (by decide)

/-- Not every bound date has the form `YYYY-MM-DD`, and two that are bound for one day may differ. -/
theorem bound_dates_of_one_day_differ :
    ∃ short full,
      compile (.ofList [("alta", .date)]) [⟨"alta", "", .str "2024-5-1"⟩] .unspecified = .ok short ∧
      compile (.ofList [("alta", .date)]) [⟨"alta", "", .str "2024-05-01"⟩] .unspecified = .ok full ∧
      short.params.get? "val0" = some (.string "2024-5-1") ∧ full.params.get? "val0" = some (.string "2024-05-01") ∧
      Date.read? "2024-5-1".toList = some ⟨2024, 5, 1⟩ ∧ Date.read? "2024-05-01".toList = some ⟨2024, 5, 1⟩ ∧
      ¬Date.HasForm "2024-5-1".toList := by
  refine ⟨_, _, rfl, rfl, rfl, rfl, by decide +kernel, by decide +kernel, fun hform => ?_⟩
  exact absurd hform.length (by decide)

/-! ### Days in the form `YYYY-MM-DD` -/

theorem trimmed_formChars {year month day : Nat} (hyear : year ≤ 9999) (hmonth : month ≤ 99) (hday : day ≤ 99) :
    Trimmed (Date.formChars year month day) ∧ 'T' ∉ Date.formChars year month day ∧
      ' ' ∉ Date.formChars year month day := by
  have hfull := Date.Spelling.full_inForm hyear hmonth hday
  have hform := Date.Spelling.hasForm_iff.mpr hfull
  rw [← Date.Spelling.chars_inForm hyear hmonth hday]
  refine ⟨Date.Spelling.trimmed hfull.beforeYear, fun hmem => ?_, fun hmem => ?_⟩
  · exact absurd (hform.mem hmem) (by decide)
  · exact absurd (hform.mem hmem) (by decide)

/-- A text that holds a day in the form, between blanks in front and a time or blanks behind. -/
structure HoldsDay (s : String) (year month day : Nat) : Prop where
  yearLe : year ≤ 9999
  monthLe : month ≤ 99
  dayLe : day ≤ 99
  text : ∃ before after, Blanks before ∧ (Timed after ∨ Blanks after) ∧
    s = String.ofList (before ++ (Date.formChars year month day ++ after))

theorem HoldsDay.datePart_eq {s : String} {year month day : Nat} (h : HoldsDay s year month day) :
    datePart s = Date.formChars year month day := by
  obtain ⟨hyear, hmonth, hday, before, after, hbefore, hafter, rfl⟩ := h
  obtain ⟨htrimmed, htime⟩ := trimmed_formChars hyear hmonth hday
  exact datePart_between htrimmed (by simp [Date.formChars]) htime hbefore hafter

theorem ofFilter_of_holdsDay {s : String} {year month day : Nat} (hrule : ComparedByDay columns campaign f.column)
    (hvalue : f.value = .str s) (h : HoldsDay s year month day) :
    (InCalendar year month day → Condition.ofFilter columns campaign f =
        .ok (.onDate f.column (String.ofList (Date.formChars year month day)))) ∧
      (¬InCalendar year month day → Condition.ofFilter columns campaign f = .error (.invalidDate f.value.text)) := by
  have hpart := h.datePart_eq
  have chosen : f.isWildcard = false := isWildcard_eq_false hvalue (by rw [hpart]; simp [Date.formChars])
  obtain ⟨hread, hnone⟩ := Date.read?_formChars h.yearLe h.monthLe h.dayLe
  rw [ofFilter_of_comparedByDay hrule chosen, hvalue, dateOf_str, hpart]
  constructor
  · intro hday
    rw [hread hday]
    rfl
  · intro hday
    rw [hnone hday]
    rfl

/-- A day that comes in the form `YYYY-MM-DD`, with whatever blanks and time around it, is taken and bound in that form
when the calendar has it, and otherwise is an error. Whatever is bound under the rule is taken again in place of the
value that it came from, and the compilation stays the same. -/
theorem compile_date_in_form (columns : Columns) (campaign : CampaignKind) (fs : List FilterSpec) {i : Nat}
    {f : FilterSpec} (hf : fs[i]? = some f) (hrule : ComparedByDay columns campaign f.column) :
    (∀ s year month day, f.value = .str s → HoldsDay s year month day →
      (∀ j g, j ≠ i → fs[j]? = some g → ¬FailsAlone columns campaign g) →
      (InCalendar year month day → ∃ compiled, compile columns fs campaign = .ok compiled ∧
        compiled.params.get? (paramName i) = some (.string (String.ofList (Date.formChars year month day)))) ∧
      (¬InCalendar year month day →
        compile columns fs campaign = .error ⟨i, f.column, .invalidDate f.value.text⟩)) ∧
    (f.isWildcard = false → ∀ compiled, compile columns fs campaign = .ok compiled →
      ∃ date, compiled.params.get? (paramName i) = some (.string date) ∧
        compile columns (fs.set i { f with value := .str date }) campaign = .ok compiled) := by
  constructor
  · intro s year month day hvalue hholds hothers
    obtain ⟨htaken, hrefused⟩ := ofFilter_of_holdsDay hrule hvalue hholds
    constructor
    · intro hday
      obtain ⟨cs, hcs, hi⟩ := exists_conditions_of_others hf (htaken hday) hothers
      exact ⟨_, compile_eq_ok_iff.mpr ⟨cs, hcs, rfl⟩, get?_date hi⟩
    · intro hday
      exact compile_eq_error_of_others hf (hrefused hday) hothers
  · intro chosen compiled hcompile
    obtain ⟨cs, hcs, rfl⟩ := compile_eq_ok_iff.mp hcompile
    obtain ⟨date, hdate, hi⟩ := exists_date_of_compile hcs hf chosen hrule
    obtain ⟨s, p, -, hp, -, rfl⟩ := dateOf_eq_ok_iff.mp hdate
    refine ⟨_, get?_date hi, compile_eq_ok_iff.mpr ⟨cs, hcs.set hi ?_, rfl⟩⟩
    have hagain : datePart (String.ofList p.chars) ≠ [] := by
      rw [datePart_chars hp]
      simp [Date.Spelling.chars]
    have hcondition := ofFilter_of_comparedByDay (f := { f with value := .str (String.ofList p.chars) }) hrule
      (isWildcard_eq_false rfl hagain)
    rw [hcondition, dateOf_again hdate]
    rfl

/-- The 29th of February is taken in 2024, with a wide blank in front and a time behind it, and refused in 2023. A date
without its zeros is bound again as it was bound before. -/
theorem compile_date_in_form_in_february :
    (∃ compiled, compile (.ofList [("alta", .date)]) [⟨"alta", "", .str "\u3000 2024-02-29T23:59"⟩] .unspecified =
        .ok compiled ∧ compiled.params.get? (paramName 0) = some (.string "2024-02-29")) ∧
      compile (.ofList [("alta", .date)]) [⟨"alta", "", .str "2023-02-29\u00a0"⟩] .unspecified =
        .error ⟨0, "alta", .invalidDate "\"2023-02-29\u00a0\""⟩ ∧
      ∃ compiled date, compile (.ofList [("alta", .date)]) [⟨"alta", "", .str "+2024-5-\t1 x"⟩] .unspecified =
          .ok compiled ∧ compiled.params.get? (paramName 0) = some (.string date) ∧
        compile (.ofList [("alta", .date)]) [⟨"alta", "", .str date⟩] .unspecified = .ok compiled := by
  have hrule : ComparedByDay (.ofList [("alta", .date)]) .unspecified "alta" := ⟨⟨.date, rfl, .inl rfl⟩, rfl⟩
  have hothers : ∀ {f : FilterSpec} (j : Nat) (g : FilterSpec), j ≠ 0 → [f][j]? = some g →
      ¬FailsAlone (.ofList [("alta", .date)]) .unspecified g := by
    rintro f (_ | j) g hj hg
    · exact absurd rfl hj
    · cases hg
  refine ⟨?_, ?_, ?_⟩
  · have hholds : HoldsDay "\u3000 2024-02-29T23:59" 2024 2 29 :=
      ⟨by decide, by decide, by decide, ['\u3000', ' '], "T23:59".toList,
        List.forall_mem_cons.mpr ⟨rfl, List.forall_mem_singleton.mpr rfl⟩, .inl (.inl rfl), by decide +kernel⟩
    have hday : InCalendar 2024 2 29 := inCalendar_iff.mpr (by decide)
    exact ((compile_date_in_form _ _ _ rfl hrule).1 _ _ _ _ rfl hholds hothers).1 hday
  · have hholds : HoldsDay "2023-02-29\u00a0" 2023 2 29 :=
      ⟨by decide, by decide, by decide, [], ['\u00a0'], blanks_nil, .inr (List.forall_mem_singleton.mpr rfl),
        by decide +kernel⟩
    have hday : ¬InCalendar 2023 2 29 := mt inCalendar_iff.mp (by decide)
    exact ((compile_date_in_form _ _ [⟨"alta", "", .str "2023-02-29\u00a0"⟩] rfl hrule).1 _ _ _ _ rfl hholds
      hothers).2 hday
  · have hcompile : compile (.ofList [("alta", .date)]) [⟨"alta", "", .str "+2024-5-\t1 x"⟩] .unspecified = .ok _ := rfl
    obtain ⟨date, hbound, hagain⟩ := (compile_date_in_form _ _ _ (i := 0) rfl hrule).2 rfl _ hcompile
    exact ⟨_, date, hcompile, hbound, hagain⟩

end Audience
