import Audience.Text.Hex
import Audience.Text.Split
import Audience.Text.Utf8

/-!
Targets of requests: a path and a query, with a scheme and a host in front or without. In both a byte may be
written as a percent sign and two hexadecimal digits; a percent sign without them stands for itself. In a
query a plus sign is a space.
-/

namespace Audience.Http

/-- A byte written as two hexadecimal digits. -/
def hexByte? (high low : UInt8) : Option UInt8 := do
  let h ← Text.hexValue? (Char.ofNat high.toNat)
  let l ← Text.hexValue? (Char.ofNat low.toNat)
  return UInt8.ofNat (h * 16 + l)

/-- The bytes with every escape replaced by the byte that it stands for. -/
def percentDecoded : List UInt8 → List UInt8
  | 0x25 :: high :: low :: more =>
    match hexByte? high low with
    | some byte => byte :: percentDecoded more
    | none => 0x25 :: percentDecoded (high :: low :: more)
  | b :: rest => b :: percentDecoded rest
  | [] => []

/-- A part of a path in clear; none when its bytes are no text. -/
def pathText? (s : String) : Option String := Text.ofUtf8? (percentDecoded (Text.utf8Bytes s))

/-- A part of a query in clear. -/
def queryText (cs : List Char) : String :=
  let spaced := cs.map fun c => if c = '+' then ' ' else c
  Text.ofUtf8Lenient (percentDecoded (Text.utf8Bytes (String.ofList spaced)))

/-- A target without its scheme and its host, which it may name in front of the path. -/
def withoutOrigin (cs : List Char) : List Char :=
  match cs with
  | '/' :: _ => cs
  | _ =>
    match Text.splitOnce "://".toList cs with
    | none => cs
    | some (_, rest) =>
      match rest.dropWhile fun c => c ≠ '/' ∧ c ≠ '?' with
      | '/' :: more => '/' :: more
      | more => '/' :: more

/-- The path and the query of a target. What follows a hash sign belongs to neither. -/
def targetParts (target : String) : String × String :=
  let cs := withoutOrigin (target.toList.takeWhile (· ≠ '#'))
  match Text.splitOnce ['?'] cs with
  | some (path, query) => (String.ofList path, String.ofList query)
  | none => (String.ofList cs, "")

/-- The parts between ampersands. -/
def queryPieces (cs : List Char) : List (List Char) :=
  (cs.splitOn '&').filter (· ≠ [])

/-- The names and values of a query. A piece without an equals sign has an empty value. -/
def queryPairs (query : String) : List (String × String) :=
  (queryPieces query.toList).map fun piece =>
    match Text.splitOnce ['='] piece with
    | some (name, value) => (queryText name, queryText value)
    | none => (queryText piece, "")

example : targetParts "http://h:80?a=/" = ("/", "a=/") ∧ targetParts "/x://y?b#c" = ("/x://y", "b") := by
  decide +kernel
example : queryPairs "&&k%65y=a+b%2B%&x" = [("key", "a b+%"), ("x", "")] := by decide +kernel

end Audience.Http
