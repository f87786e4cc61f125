/-!
Digits of base sixteen. A digit is read in either case; `hexValue?_hexDigit` and `hexValue?_upperHexDigit` say
that what is written reads back as the number that it stands for.
-/

namespace Audience.Text

/-- The value of a digit of base sixteen. -/
def hexValue? (c : Char) : Option Nat :=
  if c.isDigit then some (c.toNat - '0'.toNat)
  else if 'a' ≤ c ∧ c ≤ 'f' then some (c.toNat - 'a'.toNat + 10)
  else if 'A' ≤ c ∧ c ≤ 'F' then some (c.toNat - 'A'.toNat + 10)
  else none

/-- The lower-case digit of a number below sixteen; of a larger one its last digit. -/
def hexDigit (n : Nat) : Char := Nat.digitChar (n % 16)

/-- The upper-case digit of a number below sixteen; of a larger one its last digit. -/
def upperHexDigit (n : Nat) : Char := (hexDigit n).toUpper

theorem hexValue?_hexDigit (n : Nat) : hexValue? (hexDigit n) = some (n % 16) := by
  have all : ∀ d : Fin 16, hexValue? (Nat.digitChar d.val) = some d.val := by decide
  exact all ⟨n % 16, Nat.mod_lt n (by decide)⟩

theorem hexValue?_upperHexDigit (n : Nat) : hexValue? (upperHexDigit n) = some (n % 16) := by
  have all : ∀ d : Fin 16, hexValue? (Nat.digitChar d.val).toUpper = some d.val := by decide
  exact all ⟨n % 16, Nat.mod_lt n (by decide)⟩

end Audience.Text
