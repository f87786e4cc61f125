import Audience.Calendar.DayMonth
import Mathlib.Data.List.Basic

/-!
What the reader of days and months takes. `DayMonth.read_eq_ok_iff` says which parts a text has that names a day,
`DayMonth.valid_of_read` that the day is one of a leap year. A text that ends with a closing bracket names none: the
bracket outlasts every cut and stays behind the name of the month.
-/

namespace Audience

/-! ### The last character of a text -/

namespace Text

variable {cs before after sep : List Char} {c : Char}

theorem getLast?_trimChars (h : cs.getLast? = some c) (hc : isBlank c = false) : (trimChars cs).getLast? = some c := by
  obtain ⟨xs, rfl⟩ := List.getLast?_eq_some_iff.mp h
  have hstart : ∃ ys, trimStartChars (xs ++ [c]) = ys ++ [c] := by
    rw [trimStartChars, List.dropWhile_append, List.dropWhile_cons_of_neg (by simp [hc])]
    split
    · exact ⟨[], rfl⟩
    · exact ⟨_, rfl⟩
  obtain ⟨ys, hstart⟩ := hstart
  rw [trimChars, hstart, trimEndChars, List.reverse_append, List.reverse_singleton, List.singleton_append,
    List.dropWhile_cons_of_neg (by simp [hc])]
  simp

theorem getLast?_lowerFrom (before : List Char) (h : cs.getLast? = some c) (hc : ∀ ds, lowerAt ds c [] = [c]) :
    (lowerFrom before cs).getLast? = some c := by
  obtain ⟨xs, rfl⟩ := List.getLast?_eq_some_iff.mp h
  clear h
  induction xs generalizing before with
  | nil => simp [lowerFrom, hc]
  | cons x xs ih => rw [List.cons_append, lowerFrom, List.getLast?_append, ih, Option.some_or]

/-- A separator without the character cuts it off with what comes after. -/
theorem getLast?_after (hsplit : splitOnce sep cs = some (before, after)) (hsep : sep ≠ []) (hc : c ∉ sep)
    (h : cs.getLast? = some c) : after.getLast? = some c := by
  rw [append_of_splitOnce hsplit, List.getLast?_append, List.getLast?_append] at h
  cases hafter : after.getLast? with
  | some d => rwa [hafter] at h
  | none =>
    rw [hafter, List.getLast?_eq_some_getLast hsep] at h
    exact absurd (Option.some.inj h ▸ List.getLast_mem hsep) hc

theorem splitOnce_eq_none_of_not_mem (h : c ∉ cs) : splitOnce [c] cs = none := by
  rw [Option.eq_none_iff_forall_ne_some]
  rintro ⟨before, after⟩ hsplit
  exact h (append_of_splitOnce hsplit ▸ by simp)

end Text

namespace DayMonth

variable {text : String} {d : DayMonth}

/-! ### The parts of a text -/

theorem read_eq_ok_iff : read text = .ok d ↔
    ∃ weekday rest day month, Text.splitOnce [','] text.toList = some (weekday, rest) ∧
      Text.splitOnce [' ', 'd', 'e', ' '] (Text.lowerChars (Text.trimChars rest)) = some (day, month) ∧
      Reading.natural dayLimit (Text.trimChars day) = .ok d.day ∧
      monthNumber? (String.ofList month) = some d.month ∧ 0 < d.day ∧ d.day ≤ daysInMonth true d.month := by
  constructor
  · intro h
    unfold read at h
    split at h
    · cases h
    · next weekday rest hcomma =>
      split at h
      · cases h
      · next day month hsplit =>
        split at h
        · cases h
        · next n hday =>
          split at h
          · cases h
          · next m hmonth =>
            split at h
            · cases h
            · next hrange =>
              obtain rfl := Except.ok.inj h
              obtain ⟨hpos, hle⟩ := not_or.mp hrange
              exact ⟨weekday, rest, day, month, hcomma, hsplit, hday, hmonth, Nat.pos_of_ne_zero hpos,
                Nat.not_lt.mp hle⟩
  · rintro ⟨weekday, rest, day, month, hcomma, hsplit, hday, hmonth, hpos, hle⟩
    have hrange : ¬(d.day = 0 ∨ daysInMonth true d.month < d.day) := by omega
    simp [read, hcomma, hsplit, hday, hmonth, hrange]

theorem monthNumber?_bounds {name : String} {m : Nat} (h : monthNumber? name = some m) : 1 ≤ m ∧ m ≤ 12 := by
  obtain ⟨i, hi, rfl⟩ := Option.map_eq_some_iff.mp h
  obtain ⟨hlt, -⟩ := List.idxOf?_eq_some_iff.mp hi
  have hlength : monthNames.length = 12 := rfl
  omega

/-- A day that is read is a day of a leap year. -/
theorem valid_of_read (h : read text = .ok d) :
    1 ≤ d.month ∧ d.month ≤ 12 ∧ 1 ≤ d.day ∧ d.day ≤ daysInMonth true d.month := by
  obtain ⟨_, _, _, _, -, -, -, hmonth, hpos, hle⟩ := read_eq_ok_iff.mp h
  obtain ⟨hlow, hhigh⟩ := monthNumber?_bounds hmonth
  exact ⟨hlow, hhigh, hpos, hle⟩

theorem daysInMonth_le (leap : Bool) (month : Nat) : daysInMonth leap month ≤ 31 := by
  unfold daysInMonth
  split
  · split <;> decide
  · decide
  · decide
  · decide
  · decide
  · exact Nat.le_refl _

/-! ### Texts that name no day -/

theorem read_ne_ok_of_no_comma (h : ',' ∉ text.toList) : read text ≠ .ok d := by
  intro hread
  obtain ⟨_, _, _, _, hcomma, -⟩ := read_eq_ok_iff.mp hread
  rw [Text.splitOnce_eq_none_of_not_mem h] at hcomma
  cases hcomma

/-- No name of a month ends with a closing bracket. -/
theorem monthNumber?_of_closed {cs : List Char} {c : Char} (hc : c = ']' ∨ c = '}') (h : cs.getLast? = some c) :
    monthNumber? (String.ofList cs) = none := by
  have hlower : (Text.lower (Text.trim (String.ofList cs))).toList.getLast? = some c := by
    rw [Text.lower, String.toList_ofList, Text.toList_trim, String.toList_ofList]
    exact Text.getLast?_lowerFrom [] (Text.getLast?_trimChars h (by rcases hc with rfl | rfl <;> decide))
      (by rcases hc with rfl | rfl <;> exact fun _ => rfl)
  rw [monthNumber?, Option.map_eq_none_iff, List.idxOf?_eq_none_iff]
  intro hmem
  have hopen : ∀ name ∈ monthNames, name.toList.getLast? ≠ some ']' ∧ name.toList.getLast? ≠ some '}' := by decide
  obtain ⟨hsquare, hcurly⟩ := hopen _ hmem
  rcases hc with rfl | rfl
  · exact hsquare hlower
  · exact hcurly hlower

theorem read_ne_ok_of_closed {c : Char} (hc : c = ']' ∨ c = '}') (h : text.toList.getLast? = some c) :
    read text ≠ .ok d := by
  intro hread
  obtain ⟨weekday, rest, day, month, hcomma, hsplit, -, hmonth, -⟩ := read_eq_ok_iff.mp hread
  have hrest : rest.getLast? = some c :=
    Text.getLast?_after hcomma (by simp) (by rcases hc with rfl | rfl <;> decide) h
  have hlower : (Text.lowerChars (Text.trimChars rest)).getLast? = some c :=
    Text.getLast?_lowerFrom [] (Text.getLast?_trimChars hrest (by rcases hc with rfl | rfl <;> decide))
      (by rcases hc with rfl | rfl <;> exact fun _ => rfl)
  have hend : month.getLast? = some c :=
    Text.getLast?_after hsplit (by simp) (by rcases hc with rfl | rfl <;> decide) hlower
  rw [monthNumber?_of_closed hc hend] at hmonth
  cases hmonth

end DayMonth

end Audience
