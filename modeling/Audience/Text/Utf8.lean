/-!
UTF-8 bytes read as characters. Where the bytes stop being the encoding of a character, those read of it so far
count as one fault and reading goes on behind them. A strict reader takes texts without faults; a lenient
one puts the replacement character in place of each fault.
-/

namespace Audience.Text

/-- What the first byte of an encoded character says: its own bits, how many bytes follow, and the least and
the greatest value of the second byte. -/
structure Utf8Lead where
  bits : Nat
  following : Nat
  low : Nat
  high : Nat

/-- Reads a first byte; none for a byte that starts no character. -/
def Utf8Lead.ofByte? (b : Nat) : Option Utf8Lead :=
  if b < 0x80 then some ⟨b, 0, 0x80, 0xBF⟩
  else if b < 0xC2 then none
  else if b < 0xE0 then some ⟨b - 0xC0, 1, 0x80, 0xBF⟩
  else if b = 0xE0 then some ⟨0, 2, 0xA0, 0xBF⟩
  else if b = 0xED then some ⟨0xD, 2, 0x80, 0x9F⟩
  else if b < 0xF0 then some ⟨b - 0xE0, 2, 0x80, 0xBF⟩
  else if b = 0xF0 then some ⟨0, 3, 0x90, 0xBF⟩
  else if b < 0xF4 then some ⟨b - 0xF0, 3, 0x80, 0xBF⟩
  else if b = 0xF4 then some ⟨4, 3, 0x80, 0x8F⟩
  else none

/-- What is read at a place of a byte sequence: all of a character, or the start of one. -/
inductive Utf8State where
  | between
  | inside (bits following low high : Nat)

/-- Reads bytes as characters, with `none` for each fault. -/
def utf8From (state : Utf8State) (bytes : List UInt8) : List (Option Char) :=
  match state, bytes with
  | .between, [] => []
  | .between, b :: rest =>
    match Utf8Lead.ofByte? b.toNat with
    | none => none :: utf8From .between rest
    | some lead =>
      match lead.following with
      | 0 => some (Char.ofNat lead.bits) :: utf8From .between rest
      | n + 1 => utf8From (.inside lead.bits n lead.low lead.high) rest
  | .inside .., [] => [none]
  | .inside bits n low high, b :: rest =>
    if low ≤ b.toNat ∧ b.toNat ≤ high then
      let bits := bits * 64 + b.toNat % 64
      match n with
      | 0 => some (Char.ofNat bits) :: utf8From .between rest
      | n + 1 => utf8From (.inside bits n 0x80 0xBF) rest
    else
      match Utf8Lead.ofByte? b.toNat with
      | none => none :: none :: utf8From .between rest
      | some lead =>
        match lead.following with
        | 0 => none :: some (Char.ofNat lead.bits) :: utf8From .between rest
        | n + 1 => none :: utf8From (.inside lead.bits n lead.low lead.high) rest

/-- The text that the bytes encode; none when there is a fault. -/
def ofUtf8? (bytes : List UInt8) : Option String := ((utf8From .between bytes).mapM id).map String.ofList

/-- The text that the bytes encode, with a replacement character for each fault. -/
def ofUtf8Lenient (bytes : List UInt8) : String :=
  String.ofList ((utf8From .between bytes).map fun c => c.getD '\ufffd')

/-- The UTF-8 bytes of a text. -/
def utf8Bytes (s : String) : List UInt8 := s.toUTF8.toList

example : ofUtf8? (utf8Bytes "ñ€🎉") = some "ñ€🎉" := by decide +kernel
example : ofUtf8Lenient [0xE2, 0x82, 0x41, 0xFF, 0xF0, 0x9F, 0xED, 0xA0] =
    "\ufffdA\ufffd\ufffd\ufffd\ufffd" := by decide +kernel

end Audience.Text
