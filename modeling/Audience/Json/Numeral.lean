import Audience.Json.Basic
import Audience.Number.Reading

/-!
Numerals of JSON texts. One without point and exponent that fits 64 bits is that integer. Any other, and a
zero with a minus sign, is a binary64 number and is read through 64 bits of digits: leading digits are taken
while they fit, the others only move the point, and the digits, once converted, are scaled by a power of ten
with one rounding for each step. A number past the largest finite one is refused.
-/

namespace Audience.Json

/-- A numeral in its parts; `exponent` holds the value after the exponent mark. -/
structure Numeral where
  negative : Bool
  whole : List Char
  fraction : List Char
  exponent : Option Int

namespace Numeral

/-- Takes digits onto `acc` while they fit 64 bits; also gives the digits left over. -/
def takeFitting (acc : Nat) : List Char → Nat × List Char
  | [] => (acc, [])
  | c :: cs =>
    let next := acc * 10 + Reading.digitValue c
    if next < UInt64.size then takeFitting next cs else (acc, c :: cs)

/-- The digits that are kept and the power of ten that goes with them. -/
def significand (n : Numeral) : Nat × Int :=
  let (whole, passed) := takeFitting 0 n.whole
  let (digits, cut) := takeFitting whole n.fraction
  (digits, (passed.length : Int) - (n.fraction.length - cut.length) + n.exponent.getD 0)

/-- The largest power of ten that one step scales by. -/
def stepLimit : Nat := 308

/-- `x · 10^exponent` in one step, when the power and the result are finite. -/
def scaledOnce (x : Binary64) (exponent : Int) : Option Binary64 :=
  match Float64.ofDecimal false ⟨1, exponent.natAbs⟩ with
  | .finite power =>
    match if 0 ≤ exponent then x.scaleUp power else x.scaleDown power with
    | .finite y => some y
    | _ => none
  | _ => none

/-- `x · 10^exponent`, in steps of at most `stepLimit`; none when it passes the largest finite number. -/
def scaled (x : Binary64) (exponent : Int) : Option Binary64 :=
  if exponent.natAbs ≤ stepLimit then scaledOnce x exponent
  else if x.mantissa = 0 then some x
  else if 0 ≤ exponent then none
  else (scaledOnce x (-stepLimit)).bind fun y => scaled y (exponent + stepLimit)
termination_by exponent.natAbs
decreasing_by
  simp only [stepLimit] at *
  omega

/-- The numeral as a binary64 number. -/
def toBinary64? (n : Numeral) : Option Binary64 :=
  let (digits, exponent) := n.significand
  match Float64.nearest n.negative digits 1 with
  | .finite x => scaled x exponent
  | _ => none

/-- The JSON number that the numeral denotes. -/
def toJson? (n : Numeral) : Option Json :=
  let digits := Reading.ofDigits n.whole
  let integer :=
    if n.fraction ≠ [] ∨ n.exponent.isSome then none
    else if n.negative then
      if digits = 0 ∨ 0x8000000000000000 < digits then none else ofInt? (-digits)
    else ofInt? digits
  integer.or (n.toBinary64?.map .float)

/-- The exponent behind a mark: an optional sign and at least one digit. -/
def exponentOf? (cs : List Char) : Option (Int × List Char) :=
  let (negative, cs) := match cs with
    | '-' :: rest => (true, rest)
    | '+' :: rest => (false, rest)
    | _ => (false, cs)
  match Reading.digitSpan cs with
  | ([], _) => none
  | (digits, rest) => some (if negative then -(Reading.ofDigits digits : Int) else Reading.ofDigits digits, rest)

/-- The numeral at the front of a text and what follows it. A numeral of more than one digit does not start
with zero, and a point has digits on both sides. -/
def read? (cs : List Char) : Option (Numeral × List Char) :=
  let (negative, cs) := match cs with
    | '-' :: rest => (true, rest)
    | _ => (false, cs)
  let (whole, cs) := Reading.digitSpan cs
  let leading := match whole with
    | [] => false
    | '0' :: _ :: _ => false
    | _ => true
  if leading then
    let fraction? := match cs with
      | '.' :: rest => match Reading.digitSpan rest with
        | ([], _) => none
        | found => some found
      | _ => some ([], cs)
    match fraction? with
    | none => none
    | some (fraction, cs) =>
      match cs with
      | mark :: rest =>
        if mark == 'e' || mark == 'E' then
          (exponentOf? rest).map fun (e, cs) => (⟨negative, whole, fraction, some e⟩, cs)
        else some (⟨negative, whole, fraction, none⟩, cs)
      | [] => some (⟨negative, whole, fraction, none⟩, [])
  else none

end Numeral

end Audience.Json
