import Audience.Text.Hex
import Audience.Text.Split

/-!
Numeric addresses of hosts: four decimal numbers with points, or in brackets eight groups of base sixteen with
colons. Two colons in a row stand for one or more groups of zero, and the last two groups may be written as
four decimal numbers. A number behind a percent sign names the scope. Names of hosts are no addresses.
-/

namespace Audience.Http.Address

/-- A decimal number up to 255 without a leading zero. -/
def isOctet (cs : List Char) : Bool :=
  cs.all Char.isDigit && 0 < cs.length && cs.length ≤ 3 && (cs.length = 1 || cs.head? != some '0') &&
    Nat.ofDigitChars 10 cs 0 ≤ 255

/-- Four decimal numbers with points. -/
def isShort (cs : List Char) : Bool :=
  let parts := cs.splitOn '.'
  parts.length == 4 && parts.all isOctet

/-- A group of base sixteen. -/
def isGroup (cs : List Char) : Bool :=
  0 < cs.length && cs.length ≤ 4 && cs.all fun c => (Text.hexValue? c).isSome

/-- How many groups the parts stand for; none when one is malformed. Only the last part may be four decimal
numbers, which stand for two groups. -/
def groups? (shortLast : Bool) : List (List Char) → Option Nat
  | [] => some 0
  | [last] => if isGroup last then some 1 else if shortLast && isShort last then some 2 else none
  | part :: rest => if isGroup part then (groups? shortLast rest).map (· + 1) else none

/-- The parts between colons. -/
def colonParts (cs : List Char) : List (List Char) := if cs = [] then [] else cs.splitOn ':'

/-- Eight groups of base sixteen with colons. -/
def isLong (cs : List Char) : Bool :=
  match Text.splitOnce [':', ':'] cs with
  | none => groups? true (colonParts cs) == some 8
  | some (before, after) =>
    match groups? false (colonParts before), groups? true (colonParts after) with
    | some m, some n => m + n ≤ 7
    | _, _ => false

/-- A number of 32 bits that names a scope. -/
def isScope (cs : List Char) : Bool := 0 < cs.length && cs.all Char.isDigit && Nat.ofDigitChars 10 cs 0 < UInt32.size

/-- What stands in brackets: groups and an optional scope. -/
def isScoped (cs : List Char) : Bool :=
  match Text.splitOnce ['%'] cs with
  | none => isLong cs
  | some (groups, scope) => isLong groups && isScope scope

/-- The text of a host is a numeric address. -/
def isNumeric (host : String) : Bool :=
  match host.toList with
  | '[' :: rest => rest.getLast? == some ']' && isScoped rest.dropLast
  | cs => isShort cs

example : isNumeric "127.0.0.1" = true ∧ isNumeric "127.0.0.01" = false ∧ isNumeric "localhost" = false := by
  decide +kernel
example : isNumeric "[::1]" = true ∧ isNumeric "[1::2::3]" = false ∧ isNumeric "[::ffff:1.2.3.4%7]" = true ∧
    isNumeric "[1:2:3:4:5:6:7::]" = true ∧ isNumeric "[1:2:3:4:5:6:7:8::]" = false ∧ isNumeric "::1" = false := by
  decide +kernel

end Audience.Http.Address
