import Audience.Http.Target

/-!
Addresses of requests to other services: how texts are put into a path and into a query, and the target that
an address asks for. In a path and a query a byte that may not stand there is written as a percent sign and
two hexadecimal digits; in the values of a query every byte but those of letters, digits and `*-._` is, and a
space is a plus sign. Steps to the parent and to the same place are taken out of a path.
-/

namespace Audience.Http.Url

/-- A byte as a percent sign and two digits. -/
def percentByte (b : UInt8) : List Char := ['%', Text.upperHexDigit (b.toNat / 16), Text.upperHexDigit b.toNat]

/-- A character as its bytes in UTF-8, each with a percent sign. -/
def percentChar (c : Char) : List Char := (Text.utf8Bytes (String.singleton c)).flatMap percentByte

/-- The characters with those that may not stand there written as bytes: blanks, controls, what is not ASCII,
and the reserved ones. -/
def escaped (reserved : List Char) (cs : List Char) : List Char :=
  cs.flatMap fun c => if c.toNat ≤ 0x20 ∨ 0x7F ≤ c.toNat ∨ c ∈ reserved then percentChar c else [c]

/-- The characters that a path may not hold. -/
def pathReserved : List Char := ['"', '<', '>', '`', '#', '?', '{', '}']

/-- The characters that a query may not hold. -/
def queryReserved : List Char := ['"', '<', '>', '#', '\'']

/-- A character that stands for itself in the values of a query. -/
def isFormChar (c : Char) : Bool := c.isAlphanum || ['*', '-', '.', '_'].contains c

/-- A text as a name or a value in a query. -/
def formText (s : String) : List Char :=
  s.toList.flatMap fun c => if c = ' ' then ['+'] else if isFormChar c then [c] else percentChar c

/-- Names and values as a query. -/
def formQuery (pairs : List (String × String)) : List Char :=
  ['&'].intercalate (pairs.map fun (name, value) => formText name ++ '=' :: formText value)

/-- The part of a path is a step to the same place. -/
def isSelf (part : List Char) : Bool := part.map Char.toLower ∈ [".".toList, "%2e".toList]

/-- The part of a path is a step to the parent. -/
def isParent (part : List Char) : Bool :=
  part.map Char.toLower ∈ ["..".toList, ".%2e".toList, "%2e.".toList, "%2e%2e".toList]

/-- The parts of a path behind those taken so far, which stand in reverse. A step at the end leaves the
path open. -/
def resolved (taken : List (List Char)) : List (List Char) → List (List Char)
  | [] => taken.reverse
  | part :: rest =>
    let open? := if rest = [] then [[]] else []
    if isParent part then resolved (open? ++ taken.tail) rest
    else if isSelf part then resolved (open? ++ taken) rest
    else resolved (escaped pathReserved part :: taken) rest

/-- A character that ends a part of a path. -/
def isSlash (c : Char) : Bool := c == '/' || c == '\\'

/-- A path without dots in it. It starts with a slash even where the address has none. -/
def pathText (path : List Char) : List Char :=
  let parts := (path.drop 1).splitOnP isSlash
  (resolved [] parts).flatMap fun part => '/' :: part

/-- A query with further pairs behind it. -/
def extended (query : List Char) (pairs : List (String × String)) : List Char :=
  if query = [] then formQuery pairs
  else if pairs = [] then query
  else query ++ '&' :: formQuery pairs

/-- The query of a target with its question mark. An address may end in a bare question mark. -/
def queryPart (query : Option (List Char)) (pairs : List (String × String)) : List Char :=
  match query with
  | some query => '?' :: extended (escaped queryReserved query) pairs
  | none => if pairs = [] then [] else '?' :: formQuery pairs

/-- A character that may stand around an address without being a part of it. -/
def isMargin (c : Char) : Bool := c.toNat ≤ 0x20

/-- The characters of an address: none at its ends that are margin, and no line breaks or tabs. -/
def cleaned (cs : List Char) : List Char :=
  (((cs.dropWhile isMargin).reverse.dropWhile isMargin).reverse).filter fun c => c ∉ ['\t', '\n', '\r']

/-- A character that ends the origin of an address. -/
def endsOrigin (c : Char) : Bool := isSlash c || c == '?' || c == '#'

/-- What follows the scheme and the host of an address; none when they are missing. -/
def afterOrigin? (cs : List Char) : Option (List Char) := do
  let (scheme, rest) ← Text.splitOnce "://".toList cs
  guard (scheme.map Char.toLower ∈ ["http".toList, "https".toList])
  guard (rest.takeWhile (fun c => !endsOrigin c) ≠ [])
  return rest.dropWhile fun c => !endsOrigin c

/-- The target of a request to an address, with pairs added to its query. -/
def target? (address : String) (pairs : List (String × String)) : Option String := do
  let rest ← afterOrigin? (cleaned address.toList)
  let rest := rest.takeWhile (· ≠ '#')
  return String.ofList <| match Text.splitOnce ['?'] rest with
    | some (path, query) => pathText path ++ queryPart (some query) pairs
    | none => pathText rest ++ queryPart none pairs

example : target? "http://h:80/v2/a b/..\\x/./%2E%2e/q?r='#s" [("k", "a b&é"), ("l", "")] =
    some "/v2/q?r=%27&k=a+b%26%C3%A9&l=" := by decide +kernel
example : target? " https://h" [] = some "/" ∧ target? "h/x" [] = none := by decide +kernel

end Audience.Http.Url
