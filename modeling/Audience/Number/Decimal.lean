import Audience.Number.Binary64

/-!
Decimal numbers and the binary64 numbers next to them. `Float64.ofDecimal` gives the nearest one;
`Binary64.shortest` goes back, to the decimal with the fewest digits that reads as the same number, and of
those to the nearest. `reads_back` of the chosen digits is tested for each candidate, so what `shortest`
gives reads back whenever one of the candidates does.
-/

namespace Audience

/-- The number `digits · 10^exponent`. -/
structure Decimal where
  digits : Nat
  exponent : Int
deriving DecidableEq, Repr

namespace Decimal

/-- How many decimal digits a positive number has. -/
def digitCount (n : Nat) : Nat := (Nat.toDigits 10 n).length

/-- The decimal without the zeros that end its digits. -/
def stripped (d : Decimal) : Decimal :=
  if h : d.digits ≠ 0 ∧ d.digits % 10 = 0 then stripped ⟨d.digits / 10, d.exponent + 1⟩ else d
termination_by d.digits
decreasing_by omega

end Decimal

namespace Float64

/-- The number nearest to a decimal. Past the ends of the format the exact value is not worked out: from
`10^310` on the nearest is an infinity, and below `10^-330` it is zero. -/
def ofDecimal (negative : Bool) (d : Decimal) : Float64 :=
  let point := d.exponent + Decimal.digitCount d.digits
  if d.digits = 0 then .finite (Binary64.zero negative)
  else if 310 < point then .infinite negative
  else if point < -330 then .finite (Binary64.zero negative)
  else nearest negative (d.digits * Nat.pow 10 d.exponent.toNat) (Nat.pow 10 (-d.exponent).toNat)

end Float64

namespace Binary64

/-- The largest `k` with `10^k ≤ num / den`, for positive `num` and `den`. -/
def floorLog10 (num den : Nat) : Int :=
  if den ≤ num then (Decimal.digitCount (num / den) : Int) - 1
  else -(Decimal.digitCount ((den - 1) / num) : Int)

/-- Which of two decimals at the same distance is taken. -/
inductive Tie where
  | even
  | up

/-- The decimal with `count` digits nearest to the magnitude, among those that read back as the number. -/
def nearestWith (tie : Tie) (x : Binary64) (count : Nat) : Option Decimal :=
  let k := floorLog10 x.numerator x.denominator + 1 - count
  let num := x.numerator * Nat.pow 10 (-k).toNat
  let den := x.denominator * Nat.pow 10 k.toNat
  let low : Decimal := ⟨num / den, k⟩
  let high : Decimal := ⟨num / den + 1, k⟩
  let reads (d : Decimal) : Bool := Float64.ofDecimal x.negative d = .finite x
  let rest := num % den
  match reads low, reads high with
  | false, false => none
  | true, false => some low
  | false, true => some high
  | true, true =>
    if 2 * rest < den then some low
    else if den < 2 * rest then some high
    else match tie with
      | .up => some high
      | .even => if low.digits % 2 = 0 then some low else some high

/-- The magnitude itself as a decimal. -/
def exact (x : Binary64) : Decimal :=
  if 0 ≤ x.exponent then ⟨x.mantissa * Nat.pow 2 x.exponent.toNat, 0⟩
  else ⟨x.mantissa * Nat.pow 5 (-x.exponent).toNat, x.exponent⟩

/-- The decimal with the fewest digits that reads back as the number. Seventeen digits always suffice. -/
def shortest (tie : Tie) (x : Binary64) : Decimal :=
  (((List.range 17).findSome? fun i => nearestWith tie x (i + 1)).getD x.exact).stripped

end Binary64

end Audience
