import Audience.Json.Basic
import Audience.Number.Layout
import Audience.Text.Hex

/-!
JSON values as compact text. Strings escape the quote, the backslash and the control characters below the
space, and nothing else. `Json.text` writes the normal form, so it is the same for all orders in which an
object's members were given.
-/

namespace Audience.Json

/-- A character inside a JSON string. -/
def escapeChar (c : Char) : List Char :=
  match c with
  | '"' => ['\\', '"']
  | '\\' => ['\\', '\\']
  | '\x08' => ['\\', 'b']
  | '\x0c' => ['\\', 'f']
  | '\n' => ['\\', 'n']
  | '\r' => ['\\', 'r']
  | '\t' => ['\\', 't']
  | c => if c.toNat < 0x20 then ['\\', 'u', '0', '0', Text.hexDigit (c.toNat / 16), Text.hexDigit c.toNat] else [c]

/-- A text as a JSON string. -/
def quoted (s : String) : List Char := '"' :: (s.toList.flatMap escapeChar ++ ['"'])

mutual

/-- The value as it stands, without spaces. -/
def written : Json → List Char
  | .null => "null".toList
  | .bool b => (if b then "true" else "false").toList
  | .int n => integerChars n.val
  | .float x => x.jsonText.toList
  | .str s => quoted s
  | .arr [] => ['[', ']']
  | .arr (j :: rest) => '[' :: (written j ++ writtenItems rest)
  | .obj [] => ['{', '}']
  | .obj ((name, j) :: rest) => '{' :: (quoted name ++ ':' :: (written j ++ writtenMembers rest))

/-- The items after the first one, up to the closing bracket. -/
def writtenItems : List Json → List Char
  | [] => [']']
  | j :: rest => ',' :: (written j ++ writtenItems rest)

/-- The members after the first one, up to the closing brace. -/
def writtenMembers : List (String × Json) → List Char
  | [] => ['}']
  | (name, j) :: rest => ',' :: (quoted name ++ ':' :: (written j ++ writtenMembers rest))

end

/-- The compact text of the value. -/
def text (j : Json) : String := String.ofList (written j.normal)

/-- The text of an object whose members keep the given order. -/
def orderedText (members : List (String × Json)) : String :=
  String.ofList (written (.obj (normalMembers members)))

example : text (.obj [("b", .str "\x01\"é\n"), ("a", .null), ("b", .arr [.bool true])])
    = "\x7b\"a\":null,\"b\":[true]\x7d" := by decide +kernel

end Audience.Json
