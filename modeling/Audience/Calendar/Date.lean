import Audience.Number.Reading
import Audience.Text.Blank

/-!
Days of the proleptic Gregorian calendar and their reading from year, month and day. Each number may have
blanks right before it; a year without a sign has at most four digits, one with a sign any number, and month
and day have one or two. The text ends with the day. `Date.read?` gives valid days only.
-/

namespace Audience

/-- Every fourth year is longer, a full century only when its number divides by 400. -/
def isLeapYear (year : Int) : Bool := year % 4 == 0 && (year % 100 != 0 || year % 400 == 0)

/-- How many days a month has. -/
def daysInMonth (leap : Bool) (month : Nat) : Nat :=
  match month with
  | 2 => if leap then 29 else 28
  | 4 | 6 | 9 | 11 => 30
  | _ => 31

/-- Year, month and day. -/
structure Date where
  year : Int
  month : Nat
  day : Nat
deriving DecidableEq, Repr

namespace Date

/-- The first and the last year that a day may have. -/
def firstYear : Int := -262143

/-- See `firstYear`. -/
def lastYear : Int := 262142

/-- The three numbers name a day of the calendar. -/
def Valid (d : Date) : Prop :=
  firstYear ≤ d.year ∧ d.year ≤ lastYear ∧ 1 ≤ d.month ∧ d.month ≤ 12 ∧
    1 ≤ d.day ∧ d.day ≤ daysInMonth (isLeapYear d.year) d.month

instance (d : Date) : Decidable d.Valid := inferInstanceAs (Decidable (_ ∧ _))

/-- One or more leading digits, at most `limit` when one is given, and what follows them. -/
def digits? (limit : Option Nat) (cs : List Char) : Option (Nat × List Char) :=
  let run := cs.takeWhile Char.isDigit
  let run := match limit with
    | some n => run.take n
    | none => run
  if run = [] then none else some (Reading.ofDigits run, cs.drop run.length)

/-- A year with its sign. -/
def year? (cs : List Char) : Option (Int × List Char) :=
  match Text.trimStartChars cs with
  | '-' :: rest => (digits? none rest).map fun (n, rest) => (-(n : Int), rest)
  | '+' :: rest => (digits? none rest).map fun (n, rest) => ((n : Int), rest)
  | rest => (digits? (some 4) rest).map fun (n, rest) => ((n : Int), rest)

/-- A hyphen and a number of one or two digits. -/
def part? : List Char → Option (Nat × List Char)
  | '-' :: rest => digits? (some 2) (Text.trimStartChars rest)
  | _ => none

/-- The day that the text names. -/
def read? (cs : List Char) : Option Date := do
  let (year, rest) ← year? cs
  let (month, rest) ← part? rest
  let (day, rest) ← part? rest
  let date : Date := ⟨year, month, day⟩
  if rest = [] ∧ date.Valid then some date else none

theorem valid_of_read? {cs : List Char} {d : Date} (h : read? cs = some d) : d.Valid := by
  simp only [read?, Option.bind_eq_bind, Option.bind_eq_some_iff] at h
  obtain ⟨⟨y, r⟩, -, ⟨m, r'⟩, -, ⟨n, r''⟩, -, h⟩ := h
  split at h
  · next hv => cases h; exact hv.2
  · cases h

end Date

example : Date.read? "2024-02-29".toList = some ⟨2024, 2, 29⟩ ∧ Date.read? "2023-02-29".toList = none ∧
    Date.read? "20240-1-1".toList = none ∧ Date.read? "+02024-\t1-\u00a01".toList = some ⟨2024, 1, 1⟩ := by
  decide +kernel

end Audience
