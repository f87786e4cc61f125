/-!
Media types of bodies: a type and a subtype with parameters behind semicolons. The part of the subtype behind
its last plus sign names the format that it builds on. A body is JSON when the type is `application` and the
subtype, or the format that it builds on, is `json`, in any case.
-/

namespace Audience.Http

/-- A character that a name may hold. -/
def isTokenChar (c : Char) : Bool := c.isAlphanum || "!#$%&'*+-.^_`|~".toList.contains c

/-- A character that a quoted value may hold. -/
def isQuotedChar (c : Char) : Bool := 31 < c.toNat && c.toNat < 127

/-- Where the reader of parameters stands. -/
inductive ParameterState where
  /-- In front of a name. -/
  | start
  /-- Inside a name. -/
  | name
  /-- Behind the equals sign. -/
  | value
  /-- Inside a value without quotes. -/
  | bare
  /-- Behind an opening quote. -/
  | quote
  /-- Inside a quoted value. -/
  | quoted
  /-- Behind a closing quote. -/
  | closed

/-- The parameters are well formed from a state on. -/
def parametersFrom : ParameterState → List Char → Bool
  | .start, [] => true
  | .start, c :: cs =>
    if c = ' ' then parametersFrom .start cs else isTokenChar c && parametersFrom .name cs
  | .name, [] => false
  | .name, c :: cs => if c = '=' then parametersFrom .value cs else isTokenChar c && parametersFrom .name cs
  | .value, [] => true
  | .value, c :: cs => if c = '"' then parametersFrom .quote cs else isTokenChar c && parametersFrom .bare cs
  | .bare, [] => true
  | .bare, c :: cs => if c = ';' then parametersFrom .start cs else isTokenChar c && parametersFrom .bare cs
  | .quote, [] => false
  | .quote, c :: cs => isQuotedChar c && parametersFrom .quoted cs
  | .quoted, [] => false
  | .quoted, c :: cs =>
    if c = '"' then parametersFrom .closed cs else isQuotedChar c && parametersFrom .quoted cs
  | .closed, [] => true
  | .closed, c :: cs => if c = ';' then parametersFrom .start cs else c = ' ' && parametersFrom .closed cs

/-- A media type without its parameters, in lower case. -/
structure MediaType where
  type : String
  subtype : String
  /-- The format that the subtype builds on. -/
  suffix : Option String
deriving DecidableEq, Repr

namespace MediaType

/-- Characters in lower case as a text. -/
def lowered (cs : List Char) : String := String.ofList (cs.map Char.toLower)

/-- A subtype cut at its last plus sign. A plus sign in front does not cut. -/
def cutSuffix (cs : List Char) : List Char × Option (List Char) :=
  let suffix := (cs.reverse.takeWhile (· ≠ '+')).reverse
  let before := cs.length - suffix.length - 1
  if suffix.length < cs.length ∧ 0 < before then (cs.take before, some suffix) else (cs, none)

/-- The media type that a text names. -/
def read? (s : String) : Option MediaType :=
  let cs := s.toList
  let type := cs.takeWhile isTokenChar
  match cs.drop type.length with
  | '/' :: rest =>
    let name := rest.takeWhile isTokenChar
    let parameters : Bool := match rest.drop name.length with
      | [] => true
      | ';' :: more => name ≠ [] && parametersFrom .start more
      | _ => false
    if type ≠ [] ∧ parameters = true then
      let (subtype, suffix) := cutSuffix name
      some ⟨lowered type, lowered subtype, suffix.map lowered⟩
    else none
  | _ => none

/-- The media type is JSON or builds on it. -/
def isJson (m : MediaType) : Bool :=
  m.type == "application" && (m.subtype == "json" || m.suffix == some "json")

end MediaType

example : (MediaType.read? "Application/vnd.api+JSON; charset=\"utf-8\"").map MediaType.isJson = some true := by
  decide +kernel
example : MediaType.read? " application/json" = none ∧ MediaType.read? "application/json; charset" = none := by
  decide +kernel

end Audience.Http
