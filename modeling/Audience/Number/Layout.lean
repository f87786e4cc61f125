import Audience.Number.Decimal

/-!
Decimal digits laid out as text. A value of the warehouse is shown in positional notation throughout; a
number in a JSON text changes to an exponent outside `10^-5 ≤ x < 10^16` and always shows that it is no
integer. Percentages have a fixed number of places.
-/

namespace Audience

/-- An integer in decimal digits, with a minus sign below zero. -/
def integerChars (n : Int) : List Char :=
  if n < 0 then '-' :: Nat.toDigits 10 n.natAbs else Nat.toDigits 10 n.natAbs

/-- An integer in decimal digits. -/
def integerText (n : Int) : String := String.ofList (integerChars n)

namespace Decimal

/-- `count` zeros. -/
def zeros (count : Int) : List Char := List.replicate count.toNat '0'

/-- How many digits stand before the point; at most zero when the number is below one. -/
def point (d : Decimal) : Int := d.exponent + digitCount d.digits

/-- Positional notation, with `whole` written after a number without a fraction. -/
def positional (whole : String) (d : Decimal) : List Char :=
  let ds := Nat.toDigits 10 d.digits
  if 0 ≤ d.exponent then ds ++ zeros d.exponent ++ whole.toList
  else if 0 < d.point then ds.take d.point.toNat ++ '.' :: ds.drop d.point.toNat
  else '0' :: '.' :: (zeros (-d.point) ++ ds)

/-- One digit before the point and an exponent with its sign. -/
def scientific (d : Decimal) : List Char :=
  let exponent := d.point - 1
  let fraction := match Nat.toDigits 10 d.digits with
    | lead :: more@(_ :: _) => lead :: '.' :: more
    | ds => ds
  fraction ++ 'e' :: (if exponent < 0 then '-' else '+') :: Nat.toDigits 10 exponent.natAbs

end Decimal

namespace Binary64

/-- The minus sign of a negative number, zero included. -/
def signChars (x : Binary64) : List Char := if x.negative then ['-'] else []

/-- The number in positional notation, with no point in a whole one. -/
def positionalText (x : Binary64) : String :=
  String.ofList (x.signChars ++
    if x.mantissa = 0 then ['0'] else (x.shortest .up).positional "")

/-- The number as JSON: with a point or an exponent, so that it never reads as an integer. -/
def jsonText (x : Binary64) : String :=
  let d := x.shortest .even
  String.ofList (x.signChars ++
    if x.mantissa = 0 then ['0', '.', '0']
    else if -5 < d.point ∧ d.point ≤ 16 then d.positional ".0"
    else d.scientific)

end Binary64

namespace Float64

/-- The number in positional notation; the numbers that are not finite have names. -/
def text : Float64 → String
  | .nan => "NaN"
  | .infinite negative => if negative then "-inf" else "inf"
  | .finite x => x.positionalText

/-- A finite number, taken without its sign, with the given number of decimal places, a half to the even
last place. -/
def fixedText (places : Nat) : Float64 → String
  | .finite x =>
    let scaled := divNearestEven (x.numerator * Nat.pow 10 places) x.denominator
    let ds := Nat.toDigits 10 scaled
    let ds := List.replicate (places + 1 - ds.length) '0' ++ ds
    let whole := ds.length - places
    String.ofList (ds.take whole ++ '.' :: ds.drop whole)
  | x => x.text

end Float64

end Audience
