import Audience.Json.Numeral
import Audience.Text.Hex

/-!
JSON texts read as values. The grammar is that of the JSON standard; values nest to a limit, a string holds
no bare control character and no half of a surrogate pair, and only blanks may follow the value. Objects keep
their members as they are written.

A reader that knows which records a text holds reads the members that these have names for and passes over the
others. What is passed over has to be written as JSON is, but there is no limit to how deep it nests or how
large its numbers are, and a surrogate in it may stand alone.
-/

namespace Audience.Json

/-- How deep arrays and objects may nest. -/
def nestingLimit : Nat := 127

/-- A blank between the tokens. -/
def isSpace (c : Char) : Bool := c == ' ' || c == '\n' || c == '\t' || c == '\r'

/-- The text from the next token on. -/
def skipSpace (cs : List Char) : List Char := cs.dropWhile isSpace

/-- Four digits of base sixteen. -/
def hex4? (a b c d : Char) : Option Nat := do
  let pair (a b : Char) : Option Nat := return (← Text.hexValue? a) * 16 + (← Text.hexValue? b)
  return (← pair a b) * 256 + (← pair c d)

/-- The character that a one-letter escape stands for. -/
def escaped? : Char → Option Char
  | '"' => some '"'
  | '\\' => some '\\'
  | '/' => some '/'
  | 'b' => some '\x08'
  | 'f' => some '\x0c'
  | 'n' => some '\n'
  | 'r' => some '\r'
  | 't' => some '\t'
  | _ => none

/-- The rest of a string behind its opening quote, put onto `acc` in reverse, and what follows the string. -/
def stringRest (acc : List Char) : List Char → Option (List Char × List Char)
  | [] => none
  | '"' :: rest => some (acc.reverse, rest)
  | '\\' :: 'u' :: a :: b :: c :: d :: rest =>
    match hex4? a b c d with
    | none => none
    | some n =>
      if 0xD800 ≤ n ∧ n < 0xDC00 then
        match rest with
        | '\\' :: 'u' :: a :: b :: c :: d :: rest =>
          match hex4? a b c d with
          | some m =>
            if 0xDC00 ≤ m ∧ m < 0xE000 then
              stringRest (Char.ofNat (0x10000 + (n - 0xD800) * 0x400 + (m - 0xDC00)) :: acc) rest
            else none
          | none => none
        | _ => none
      else if 0xDC00 ≤ n ∧ n < 0xE000 then none
      else stringRest (Char.ofNat n :: acc) rest
  | '\\' :: e :: rest =>
    match escaped? e with
    | some c => stringRest (c :: acc) rest
    | none => none
  | c :: rest => if c.toNat < 0x20 then none else stringRest (c :: acc) rest

/-- What follows a string that is passed over; the text starts behind its opening quote. -/
def pastString? : List Char → Option (List Char)
  | [] => none
  | '"' :: rest => some rest
  | '\\' :: 'u' :: a :: b :: c :: d :: rest =>
    match hex4? a b c d with
    | some _ => pastString? rest
    | none => none
  | '\\' :: e :: rest =>
    match escaped? e with
    | some _ => pastString? rest
    | none => none
  | c :: rest => if c.toNat < 0x20 then none else pastString? rest

/-- The value at the front of a text that is no array and no object, and what follows it. -/
def scalar? : List Char → Option (Json × List Char)
  | 'n' :: 'u' :: 'l' :: 'l' :: rest => some (.null, rest)
  | 't' :: 'r' :: 'u' :: 'e' :: rest => some (.bool true, rest)
  | 'f' :: 'a' :: 'l' :: 's' :: 'e' :: rest => some (.bool false, rest)
  | '"' :: rest => (stringRest [] rest).map fun (s, rest) => (.str (String.ofList s), rest)
  | cs =>
    match Numeral.read? cs with
    | some (n, rest) => n.toJson?.map fun j => (j, rest)
    | none => none

/-- What follows a value that is no array and no object and is passed over. -/
def pastScalar? : List Char → Option (List Char)
  | 'n' :: 'u' :: 'l' :: 'l' :: rest => some rest
  | 't' :: 'r' :: 'u' :: 'e' :: rest => some rest
  | 'f' :: 'a' :: 'l' :: 's' :: 'e' :: rest => some rest
  | '"' :: rest => pastString? rest
  | cs => (Numeral.read? cs).map Prod.snd

/-- What follows a colon. -/
def pastColon? (cs : List Char) : Option (List Char) :=
  match skipSpace cs with
  | ':' :: rest => some rest
  | _ => none

/-- The name of the member at the front of a text, and what follows its colon. -/
def name? (cs : List Char) : Option (String × List Char) :=
  match skipSpace cs with
  | '"' :: rest => do
    let (name, rest) ← stringRest [] rest
    return (String.ofList name, ← pastColon? rest)
  | _ => none

/-- What follows the colon of the member at the front of a text that is passed over. -/
def pastName? (cs : List Char) : Option (List Char) :=
  match skipSpace cs with
  | '"' :: rest => (pastString? rest).bind pastColon?
  | _ => none

mutual

/-- What follows the value at the front of a text, which is passed over. -/
def pastValue? (fuel : Nat) (cs : List Char) : Option (List Char) :=
  match fuel with
  | 0 => none
  | fuel + 1 =>
    match skipSpace cs with
    | '[' :: rest =>
      match skipSpace rest with
      | ']' :: rest => some rest
      | rest => pastItems? fuel rest
    | '{' :: rest =>
      match skipSpace rest with
      | '}' :: rest => some rest
      | rest => pastMembers? fuel rest
    | cs => pastScalar? cs

/-- What follows an array, from its next item on. -/
def pastItems? (fuel : Nat) (cs : List Char) : Option (List Char) :=
  match fuel with
  | 0 => none
  | fuel + 1 =>
    match pastValue? fuel cs with
    | none => none
    | some rest =>
      match skipSpace rest with
      | ',' :: rest => pastItems? fuel rest
      | ']' :: rest => some rest
      | _ => none

/-- What follows an object, from its next member on. -/
def pastMembers? (fuel : Nat) (cs : List Char) : Option (List Char) :=
  match fuel with
  | 0 => none
  | fuel + 1 =>
    match (pastName? cs).bind (pastValue? fuel) with
    | none => none
    | some rest =>
      match skipSpace rest with
      | ',' :: rest => pastMembers? fuel rest
      | '}' :: rest => some rest
      | _ => none

end

/-- What is read of a value. -/
inductive Shape where
  /-- All of it. -/
  | whole
  /-- The parts of a record, each under its name and at its place. -/
  | record (parts : List (String × Shape))
  /-- The items of a list. -/
  | list (items : Shape)

namespace Shape

/-- What is read of the item at a place. -/
def item : Shape → Nat → Shape
  | whole, _ => whole
  | record parts, place => (parts[place]?).elim whole Prod.snd
  | list items, _ => items

/-- What is read of the member under a name; none when it is passed over. -/
def member? : Shape → String → Option Shape
  | record parts, name => parts.lookup name
  | _, _ => some whole

end Shape

mutual

/-- The value at the front of a text, in which values nest `depth` deep at most, and what follows it. -/
def value? (fuel depth : Nat) (shape : Shape) (cs : List Char) : Option (Json × List Char) :=
  match fuel with
  | 0 => none
  | fuel + 1 =>
    match skipSpace cs with
    | '[' :: rest =>
      match depth with
      | 0 => none
      | depth + 1 =>
        match skipSpace rest with
        | ']' :: rest => some (.arr [], rest)
        | rest => items? fuel depth shape 0 [] rest
    | '{' :: rest =>
      match depth with
      | 0 => none
      | depth + 1 =>
        match skipSpace rest with
        | '}' :: rest => some (.obj [], rest)
        | rest => members? fuel depth shape [] rest
    | cs => scalar? cs

/-- The items of an array from the one at `place` on, put onto `acc` in reverse. -/
def items? (fuel depth : Nat) (shape : Shape) (place : Nat) (acc : List Json) (cs : List Char) :
    Option (Json × List Char) :=
  match fuel with
  | 0 => none
  | fuel + 1 =>
    match value? fuel depth (shape.item place) cs with
    | none => none
    | some (j, rest) =>
      match skipSpace rest with
      | ',' :: rest => items? fuel depth shape (place + 1) (j :: acc) rest
      | ']' :: rest => some (.arr (j :: acc).reverse, rest)
      | _ => none

/-- The members of an object from the next one on, put onto `acc` in reverse. -/
def members? (fuel depth : Nat) (shape : Shape) (acc : List (String × Json)) (cs : List Char) :
    Option (Json × List Char) :=
  match fuel with
  | 0 => none
  | fuel + 1 =>
    match name? cs with
    | none => none
    | some (name, rest) =>
      let member := match shape.member? name with
        | some shape => (value? fuel depth shape rest).map fun (j, rest) => ((name, j) :: acc, rest)
        | none => (pastValue? fuel rest).map fun rest => (acc, rest)
      match member with
      | none => none
      | some (acc, rest) =>
        match skipSpace rest with
        | ',' :: rest => members? fuel depth shape acc rest
        | '}' :: rest => some (.obj acc.reverse, rest)
        | _ => none

end

/-- The value at the front of a text, members as they are written, and what follows it. Every step either takes
a character or is followed by one that does, so the fuel is never used up. -/
def readFirst? (shape : Shape) (s : String) : Option (Json × List Char) :=
  let cs := s.toList
  value? (2 * cs.length + 2) nestingLimit shape cs

/-- The value that a whole text holds, as far as the shape reads it. -/
def parseAs? (shape : Shape) (s : String) : Option Json :=
  match readFirst? shape s with
  | some (j, rest) => if skipSpace rest = [] then some j else none
  | none => none

/-- The value that a whole text holds, members as they are written. -/
def parse? : String → Option Json := parseAs? .whole

end Audience.Json
