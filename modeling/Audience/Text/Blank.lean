/-!
Blank characters and trimming. A blank is a character with the Unicode property White_Space; trimming
takes the longest run of blanks off an end of a text and leaves the rest as it is. The statements say
what trimming leaves: no blank at that end, and the same text when there is none to take.
-/

namespace Audience.Text

/-- A character with the property White_Space. -/
def isBlank (c : Char) : Bool :=
  let n := c.toNat
  (9 ≤ n && n ≤ 13) || n == 0x20 || n == 0x85 || n == 0xA0 || n == 0x1680 ||
    (0x2000 ≤ n && n ≤ 0x200A) || n == 0x2028 || n == 0x2029 || n == 0x202F || n == 0x205F || n == 0x3000

/-- The characters from the first one that is no blank. -/
def trimStartChars (cs : List Char) : List Char := cs.dropWhile isBlank

/-- The characters up to the last one that is no blank. -/
def trimEndChars (cs : List Char) : List Char := (cs.reverse.dropWhile isBlank).reverse

/-- The characters without the blanks at both ends. -/
def trimChars (cs : List Char) : List Char := trimEndChars (trimStartChars cs)

/-- The text without the blanks at both ends. -/
def trim (s : String) : String := String.ofList (trimChars s.toList)

@[simp] theorem toList_trim (s : String) : (trim s).toList = trimChars s.toList := by simp [trim]

theorem isBlank_of_isWhitespace {c : Char} (h : c.isWhitespace = true) : isBlank c = true := by
  simp only [Char.isWhitespace, Bool.or_eq_true, decide_eq_true_eq] at h
  rcases h with ((h | h) | h) | h <;> subst h <;> decide

/-- What is left at the front of a trimmed list is no blank. -/
theorem head_trimStartChars {c : Char} {cs rest : List Char} (h : trimStartChars cs = c :: rest) :
    isBlank c = false := by
  induction cs with
  | nil => simp [trimStartChars] at h
  | cons d ds ih =>
    by_cases hd : isBlank d = true
    · exact ih (by simpa [trimStartChars, hd] using h)
    · simp only [trimStartChars, List.dropWhile_cons, hd, if_false, Bool.false_eq_true] at h
      cases h
      simpa using hd

/-- A list that starts with no blank is trimmed at the front already. -/
theorem trimStartChars_of_head {c : Char} {cs : List Char} (h : isBlank c = false) :
    trimStartChars (c :: cs) = c :: cs := by
  simp [trimStartChars, h]

end Audience.Text
