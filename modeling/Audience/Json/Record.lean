import Audience.Json.Parser

/-!
Records with known names in JSON. A record is an object, where a part is found by its name, or an array, where
it is found by its place. An object may hold other names, but a known name once only; an array holds no more
items than there are names. A part that may be left out of an object need not be one that an array may end
before.
-/

namespace Audience.Json

/-- What a record has for one of its names. -/
inductive Part where
  /-- The object does not have the name. -/
  | absent
  /-- The array ends before the place. -/
  | cutOff
  /-- The object has the name more than once. -/
  | repeated
  /-- The value. -/
  | present (j : Json)

/-- The value can be a record with this many names. -/
def isRecord (count : Nat) : Json → Bool
  | .obj _ => true
  | .arr items => items.length ≤ count
  | _ => false

/-- The part of a record at a place and under a name. -/
def part (j : Json) (place : Nat) (name : String) : Part :=
  match j with
  | .obj members =>
    match members.filter fun m => m.1 == name with
    | [] => .absent
    | [(_, j)] => .present j
    | _ => .repeated
  | .arr items =>
    match items[place]? with
    | some j => .present j
    | none => .cutOff
  | _ => .absent

namespace Part

variable {α : Type}

/-- A part that has to be there. -/
def required? (read : Json → Option α) : Part → Option α
  | present j => read j
  | _ => none

/-- A part that an object may leave out and that may be null. -/
def optional? (read : Json → Option α) : Part → Option (Option α)
  | absent => some none
  | present .null => some none
  | present j => (read j).map some
  | _ => none

/-- A part with a default for where it is left out. -/
def withDefault? (default : α) (read : Json → Option α) : Part → Option α
  | absent => some default
  | cutOff => some default
  | repeated => none
  | present j => read j

end Part

/-- A truth value. -/
def bool? : Json → Option Bool
  | .bool b => some b
  | _ => none

/-- The items of an array, each read. -/
def list? {α : Type} (read : Json → Option α) : Json → Option (List α)
  | .arr items => items.mapM read
  | _ => none

end Audience.Json
