import Audience.Text.CaseTable

/-!
Lowercasing by the full Unicode mapping. Each character goes to its lowercase form, with two exceptions
that the mapping itself makes: the dotted capital I becomes an i followed by a combining dot, and a capital
sigma becomes a final sigma at the end of a word.
-/

namespace Audience.Text

/-- Whether the code point lies in one of the ranges. -/
def inRanges (ranges : List (Nat × Nat)) (n : Nat) : Bool :=
  ranges.any fun r => r.1 ≤ n && n ≤ r.2

/-- Whether the character has a lowercase form or is one. -/
def isCased (c : Char) : Bool := inRanges casedRanges c.toNat

/-- Whether the search for the neighbouring letter of a word passes over the character. -/
def isCaseIgnorable (c : Char) : Bool := inRanges caseIgnorableRanges c.toNat

/-- The run holds the code point. -/
def CaseRun.holds (r : CaseRun) (n : Nat) : Bool :=
  r.first ≤ n && n ≤ r.last && (n - r.first) % r.stride == 0

/-- The simple lowercase form of a character: itself when it has no other. -/
def lowerChar (c : Char) : Char :=
  match lowercaseRuns.find? (·.holds c.toNat) with
  | some r => Char.ofNat (c.toNat + r.offset).toNat
  | none => c

/-- Whether the nearest character that is not passed over is a letter with case. -/
def meetsLetter (cs : List Char) : Bool :=
  match cs.dropWhile isCaseIgnorable with
  | c :: _ => isCased c
  | [] => false

/-- The lowercase form of one character, given the characters before it, nearest first, and after it. A
capital sigma ends a word when a letter comes before it and none after it. -/
def lowerAt (before : List Char) (c : Char) (after : List Char) : List Char :=
  if c == 'Σ' then [if meetsLetter before && !meetsLetter after then 'ς' else 'σ']
  else if c == 'İ' then ['i', '\u0307']
  else [lowerChar c]

/-- Lowercases the characters, given those before them, nearest first. -/
def lowerFrom (before : List Char) : List Char → List Char
  | [] => []
  | c :: after => lowerAt before c after ++ lowerFrom (c :: before) after

/-- The characters in lower case. -/
def lowerChars (cs : List Char) : List Char := lowerFrom [] cs

/-- The text in lower case. -/
def lower (s : String) : String := String.ofList (lowerChars s.toList)

example : lower "VIERNES, ÑÑ DE ΜΑΣ JUNİO ΣΑ" = "viernes, ññ de μας juni̇o σα" := by decide +kernel

end Audience.Text
