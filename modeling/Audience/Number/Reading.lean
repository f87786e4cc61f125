import Audience.Number.Decimal

/-!
Numbers read from text. An integer is an optional sign and one or more ASCII digits and must fit its range:
it is never wrapped or clipped. A binary64 number is a decimal with an optional point and exponent, or one of
the names `inf`, `infinity` and `nan` in any case, and is rounded once. Nothing may stand before or after.
-/

namespace Audience

/-- Why a text is not an integer of the range asked for. -/
inductive IntegerError where
  | empty
  | invalidDigit
  | tooLarge
  | tooSmall
deriving DecidableEq, Repr

/-- The message of each cause. -/
def IntegerError.message : IntegerError → String
  | .empty => "cannot parse integer from empty string"
  | .invalidDigit => "invalid digit found in string"
  | .tooLarge => "number too large to fit in target type"
  | .tooSmall => "number too small to fit in target type"

/-- Why a text is not a binary64 number. -/
inductive FloatError where
  | empty
  | invalid
deriving DecidableEq, Repr

/-- The message of each cause. -/
def FloatError.message : FloatError → String
  | .empty => "cannot parse float from empty string"
  | .invalid => "invalid float literal"

namespace Reading

/-- The value of an ASCII digit. -/
def digitValue (c : Char) : Nat := c.toNat - '0'.toNat

/-- Reads digits onto `acc` and stops at the first character that is no digit or takes the number past the
limit. -/
def magnitude (limit : Nat) (past : IntegerError) (acc : Nat) : List Char → Except IntegerError Nat
  | [] => .ok acc
  | c :: cs =>
    if c.isDigit then
      let next := acc * 10 + digitValue c
      if next ≤ limit then magnitude limit past next cs else .error past
    else .error .invalidDigit

/-- A natural number up to the limit, with an optional plus sign. -/
def natural (limit : Nat) : List Char → Except IntegerError Nat
  | [] => .error .empty
  | ['+'] => .error .invalidDigit
  | '+' :: cs => magnitude limit .tooLarge 0 cs
  | cs => magnitude limit .tooLarge 0 cs

/-- An integer of 64 bits with an optional sign. -/
def int64 : List Char → Except IntegerError Int64
  | [] => .error .empty
  | ['+'] => .error .invalidDigit
  | ['-'] => .error .invalidDigit
  | '-' :: cs => (magnitude 0x8000000000000000 .tooSmall 0 cs).map fun n => Int64.ofInt (-(n : Int))
  | '+' :: cs => (magnitude 0x7fffffffffffffff .tooLarge 0 cs).map fun n => Int64.ofInt n
  | cs => (magnitude 0x7fffffffffffffff .tooLarge 0 cs).map fun n => Int64.ofInt n

/-- The leading ASCII digits and what follows them. -/
def digitSpan (cs : List Char) : List Char × List Char := cs.span Char.isDigit

/-- The number that a list of digits denotes. -/
def ofDigits (cs : List Char) : Nat := Nat.ofDigitChars 10 cs 0

/-- An exponent mark with its integer, which ends the text; no mark counts as zero. -/
def exponent : List Char → Option Int
  | [] => some 0
  | e :: cs =>
    if e == 'e' || e == 'E' then
      let (negative, digits) := match cs with
        | '-' :: ds => (true, ds)
        | '+' :: ds => (false, ds)
        | ds => (false, ds)
      if digits ≠ [] ∧ digits.all Char.isDigit then
        some (if negative then -(ofDigits digits : Int) else ofDigits digits)
      else none
    else none

/-- A decimal without a sign: digits with an optional point among or beside them, and an exponent. -/
def decimal (cs : List Char) : Option Decimal :=
  let (whole, rest) := digitSpan cs
  let (fraction, rest) := match rest with
    | '.' :: more => digitSpan more
    | _ => ([], rest)
  if whole = [] ∧ fraction = [] then none
  else (exponent rest).map fun e => ⟨ofDigits (whole ++ fraction), e - fraction.length⟩

/-- The numbers that have names. -/
def named (negative : Bool) (cs : List Char) : Option Float64 :=
  let name := String.ofList (cs.map Char.toLower)
  if name == "inf" || name == "infinity" then some (.infinite negative)
  else if name == "nan" then some .nan
  else none

/-- A binary64 number with an optional sign. -/
def float64 (cs : List Char) : Except FloatError Float64 :=
  let (negative, body) := match cs with
    | '-' :: rest => (true, rest)
    | '+' :: rest => (false, rest)
    | _ => (false, cs)
  match cs, decimal body, named negative body with
  | [], _, _ => .error .empty
  | _, some d, _ => .ok (Float64.ofDecimal negative d)
  | _, none, some x => .ok x
  | _, none, none => .error .invalid

end Reading

example : (Reading.int64 "-9223372036854775808".toList).toOption = some Int64.minValue := by decide +kernel
example : (Reading.int64 "9223372036854775808".toList).toOption = none := by decide +kernel
example : (Reading.float64 "-.5e0".toList).toOption = (Reading.float64 "-5.E-1".toList).toOption := by
  decide +kernel
example : (Reading.float64 "1e400".toList).toOption = some (.infinite false) := by decide +kernel

end Audience
