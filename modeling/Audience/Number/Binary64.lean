/-!
Numbers of the binary64 format, held exactly. A finite one is a sign and `m · 2^e` in the one form that the
format stores, so two of them are equal exactly when they are stored alike. All arithmetic goes through
`Float64.nearest`, which rounds an exact quotient once: to the nearest number of the format, a half to the
even mantissa, and to an infinity past the largest one.
-/

namespace Audience

/-- `m · 2^e` is in stored form: 53 bits of mantissa, fewer only at the least exponent. -/
def Binary64.Canonical (m : Nat) (e : Int) : Prop :=
  m < Nat.pow 2 53 ∧ -1074 ≤ e ∧ e ≤ 971 ∧ (Nat.pow 2 52 ≤ m ∨ e = -1074)

instance (m : Nat) (e : Int) : Decidable (Binary64.Canonical m e) :=
  inferInstanceAs (Decidable (_ ∧ _))

/-- A finite number of the binary64 format: `mantissa · 2^exponent` with a sign. -/
structure Binary64 where
  negative : Bool
  mantissa : Nat
  exponent : Int
  canonical : Binary64.Canonical mantissa exponent
deriving DecidableEq

/-- A number of the binary64 format with its infinities, or no number. -/
inductive Float64 where
  | nan
  | infinite (negative : Bool)
  | finite (x : Binary64)
deriving DecidableEq

namespace Binary64

/-- Zero with a sign. -/
def zero (negative : Bool) : Binary64 := ⟨negative, 0, -1074, by decide⟩

/-- The magnitude is `numerator / denominator`. -/
def numerator (x : Binary64) : Nat := x.mantissa * Nat.pow 2 x.exponent.toNat

/-- The power of two below the numerator. -/
def denominator (x : Binary64) : Nat := Nat.pow 2 (-x.exponent).toNat

theorem denominator_pos (x : Binary64) : 0 < x.denominator := Nat.two_pow_pos _

/-- The magnitude without its sign, put under the given one. -/
def signed (negative : Bool) (n : Nat) : Int := if negative then -(n : Int) else n

/-- The integer that the number is, when it is one. -/
def toInt? (x : Binary64) : Option Int :=
  if x.numerator % x.denominator = 0 then some (signed x.negative (x.numerator / x.denominator)) else none

end Binary64

/-- The largest `k` with `2^k ≤ num / den`, for positive `num` and `den`. -/
def floorLog2 (num den : Nat) : Int :=
  let k : Int := (num.log2 : Int) - den.log2
  if den * Nat.pow 2 k.toNat ≤ num * Nat.pow 2 (-k).toNat then k else k - 1

/-- The natural number nearest to `num / den`, a half to the even one. -/
def divNearestEven (num den : Nat) : Nat :=
  let q := num / den
  let r := num % den
  if 2 * r < den then q
  else if den < 2 * r then q + 1
  else if q % 2 = 0 then q else q + 1

theorem divNearestEven_one (n : Nat) : divNearestEven n 1 = n := by
  simp [divNearestEven, Nat.mod_one]

namespace Float64

/-- The number nearest to `num / den` under the sign. A mantissa that rounds up to the next power of two
takes the next exponent. -/
def nearest (negative : Bool) (num den : Nat) : Float64 :=
  if num = 0 then .finite (Binary64.zero negative)
  else
    let e := max (-1074) (floorLog2 num den - 52)
    let m := divNearestEven (num * Nat.pow 2 (-e).toNat) (den * Nat.pow 2 e.toNat)
    if h : Binary64.Canonical m e then .finite ⟨negative, m, e, h⟩
    else if h : Binary64.Canonical (m / 2) (e + 1) then .finite ⟨negative, m / 2, e + 1, h⟩
    else .infinite negative

/-- The number nearest to an integer. -/
def ofInt (n : Int) : Float64 := nearest (decide (n < 0)) n.natAbs 1

/-- The number is neither an infinity nor no number. -/
def isFinite : Float64 → Bool
  | .finite _ => true
  | _ => false

/-- The number nearest to `k` times a finite one; the others stay as they are. -/
def times (k : Nat) : Float64 → Float64
  | .finite x => nearest x.negative (x.numerator * k) x.denominator
  | x => x

end Float64

namespace Binary64

/-- The product of two magnitudes, rounded once, under the first one's sign. -/
def scaleUp (x y : Binary64) : Float64 :=
  Float64.nearest x.negative (x.numerator * y.numerator) (x.denominator * y.denominator)

/-- The quotient of two magnitudes, rounded once, under the first one's sign. -/
def scaleDown (x y : Binary64) : Float64 :=
  Float64.nearest x.negative (x.numerator * y.denominator) (x.denominator * y.numerator)

end Binary64

example : Float64.ofInt (2 ^ 53 + 1) = Float64.ofInt (2 ^ 53) := by decide +kernel
example : Float64.ofInt (2 ^ 1024) = .infinite false := by decide +kernel
example : Float64.nearest true 1 (2 ^ 1075) = .finite (Binary64.zero true) := by decide +kernel

end Audience
