import Audience.Text.HiddenTable
import Audience.Text.Lowercase

/-!
Texts shown between double quotes in messages. The quote, the backslash and the common control characters
have short escapes; any other character without a form of its own is shown by its number.
-/

namespace Audience.Text

/-- A character inside a shown text. -/
def shownChar (c : Char) : List Char :=
  match c with
  | '"' => ['\\', '"']
  | '\\' => ['\\', '\\']
  | '\x00' => ['\\', '0']
  | '\n' => ['\\', 'n']
  | '\r' => ['\\', 'r']
  | '\t' => ['\\', 't']
  | c =>
    if inRanges hiddenRanges c.toNat then ['\\', 'u', '{'] ++ Nat.toDigits 16 c.toNat ++ ['}'] else [c]

/-- The text between double quotes. -/
def shown (s : String) : String := String.ofList ('"' :: (s.toList.flatMap shownChar ++ ['"']))

example : shown "año \"5\"\u200b" = "\"año \\\"5\\\"\\u\x7b200b\x7d\"" := by decide +kernel

end Audience.Text
