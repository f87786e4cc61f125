import Audience.Proofs.Calendar.DayMonth

/-!
Which days there are. The calendar is the proleptic Gregorian one of the standard library, `Std.Time.PlainDate`: a date
is valid when its year may be written and the calendar has the day (`Date.valid_iff`), and a day without a year is
measured by the leap years (`DayMonth.inLeapYear_iff`).
-/

namespace Audience

open Std.Time (PlainDate)

/-- The calendar has a day with these numbers. -/
def InCalendar (year : Int) (month day : Nat) : Prop :=
  ∃ date : PlainDate, date.year.toInt = year ∧ date.month.val = month ∧ date.day.val = day

theorem isLeap_eq (year : Std.Time.Year.Offset) : year.isLeap = isLeapYear year.toInt := by
  -- The library rounds quotients towards zero; a remainder is zero under either rounding.
  have hmod : ∀ n : Int, year.toInt.tmod n = 0 ↔ year.toInt % n = 0 := fun n => by
    rw [← Int.dvd_iff_tmod_eq_zero, Int.dvd_iff_emod_eq_zero]
  simp only [Std.Time.Year.Offset.isLeap, hmod, ne_eq, isLeapYear]
  rw [Bool.eq_iff_iff]
  simp

theorem val_days (leap : Bool) (month : Std.Time.Month.Ordinal) :
    (Std.Time.Month.Ordinal.days leap month).val = daysInMonth leap month.val.toNat := by
  have all : ∀ (leap : Bool) (m : Fin 12), (Std.Time.Month.Ordinal.days leap ⟨m.val + 1, by omega⟩).val =
      daysInMonth leap (m.val + 1) := by decide
  obtain ⟨value, hlow, hhigh⟩ := month
  obtain ⟨m, rfl⟩ : ∃ m : Fin 12, value = m.val + 1 := ⟨⟨(value - 1).toNat, by omega⟩, by simp only; omega⟩
  exact all leap m

theorem day_le_daysInMonth (date : PlainDate) :
    date.day.val ≤ daysInMonth (isLeapYear date.year.toInt) date.month.val.toNat := by
  rw [← isLeap_eq, ← val_days]
  exact date.valid

theorem inCalendar_iff {year : Int} {month day : Nat} : InCalendar year month day ↔
    1 ≤ month ∧ month ≤ 12 ∧ 1 ≤ day ∧ day ≤ daysInMonth (isLeapYear year) month := by
  constructor
  · rintro ⟨date, rfl, hmonth, hday⟩
    obtain ⟨hlow, hhigh⟩ := date.month.property
    have hpos := date.day.property.1
    have hle := day_le_daysInMonth date
    rw [hmonth] at hlow hhigh hle
    rw [hday] at hpos hle
    exact ⟨Int.ofNat_le.mp hlow, Int.ofNat_le.mp hhigh, Int.ofNat_le.mp hpos, Int.ofNat_le.mp hle⟩
  · rintro ⟨hlow, hhigh, hpos, hle⟩
    have hday := DayMonth.daysInMonth_le (isLeapYear year) month
    let month' : Std.Time.Month.Ordinal := ⟨month, by omega⟩
    have hvalid : (day : Int) ≤ (Std.Time.Month.Ordinal.days (Std.Time.Year.Offset.isLeap year) month').val := by
      rw [val_days, isLeap_eq]
      exact Int.ofNat_le.mpr hle
    exact ⟨⟨year, month', ⟨day, by omega⟩, hvalid⟩, rfl, rfl, rfl⟩

/-- A date is valid when its year may be written and the calendar has the day. -/
theorem Date.valid_iff {d : Date} :
    d.Valid ↔ (firstYear ≤ d.year ∧ d.year ≤ lastYear) ∧ InCalendar d.year d.month d.day := by
  rw [inCalendar_iff, Date.Valid, and_assoc]

/-- Some leap year has the day. -/
def DayMonth.InLeapYear (d : DayMonth) : Prop :=
  ∃ year : Std.Time.Year.Offset, year.isLeap = true ∧ InCalendar year.toInt d.month d.day

theorem DayMonth.inLeapYear_iff {d : DayMonth} :
    d.InLeapYear ↔ 1 ≤ d.month ∧ d.month ≤ 12 ∧ 1 ≤ d.day ∧ d.day ≤ daysInMonth true d.month := by
  constructor
  · rintro ⟨year, hleap, hday⟩
    rwa [inCalendar_iff, ← isLeap_eq, hleap] at hday
  · intro h
    exact ⟨2000, rfl, inCalendar_iff.mpr h⟩

end Audience
