import Audience.Calendar.Date
import Audience.Text.Lowercase
import Audience.Text.Split

/-!
Days of the year in Spanish long form, `<weekday>, <day> de <month>`, for instance `viernes, 19 de
septiembre`. The weekday is any text without a comma and is passed over; month names and the separator are
read in any case. There is no year, so every day of a leap year is one.
-/

namespace Audience

/-- A day of the year. -/
structure DayMonth where
  month : Nat
  day : Nat
deriving DecidableEq, Repr

namespace DayMonth

/-- Why a text names no day of the year. -/
inductive ReadError where
  | missingComma (text : String)
  | missingSeparator (text : String)
  | invalidDay (day : String)
  | unknownMonth (month : String)
deriving DecidableEq, Repr

/-- The message of each cause. -/
def ReadError.message : ReadError → String
  | missingComma text => s!"expected '<weekday>, <day> de <month>', found no comma in '{text}'"
  | missingSeparator text => s!"expected '<day> de <month>' after the comma in '{text}'"
  | invalidDay day => s!"invalid day '{day}'"
  | unknownMonth month => s!"unknown month name '{month}'"

/-- The names of the months in order. -/
def monthNames : List String :=
  ["enero", "febrero", "marzo", "abril", "mayo", "junio", "julio", "agosto", "septiembre", "octubre",
    "noviembre", "diciembre"]

/-- The number of the month that a text names, in any case and between blanks. -/
def monthNumber? (name : String) : Option Nat :=
  (monthNames.idxOf? (Text.lower (Text.trim name))).map (· + 1)

/-- The largest number that a day is read as before it is held against its month. -/
def dayLimit : Nat := UInt32.size - 1

/-- The day of the year that a text names. -/
def read (text : String) : Except ReadError DayMonth :=
  match Text.splitOnce [','] text.toList with
  | none => .error (.missingComma text)
  | some (_, rest) =>
    match Text.splitOnce [' ', 'd', 'e', ' '] (Text.lowerChars (Text.trimChars rest)) with
    | none => .error (.missingSeparator text)
    | some (day, month) =>
      match Reading.natural dayLimit (Text.trimChars day) with
      | .error _ => .error (.invalidDay (String.ofList (Text.trimChars day)))
      | .ok n =>
        match monthNumber? (String.ofList month) with
        | none => .error (.unknownMonth (String.ofList (Text.trimChars month)))
        | some m =>
          if n = 0 ∨ daysInMonth true m < n then .error (.invalidDay (toString n)) else .ok ⟨m, n⟩

end DayMonth

example : (DayMonth.read "sábado, +029 DE Febrero").toOption = some ⟨2, 29⟩ := by decide +kernel

end Audience
