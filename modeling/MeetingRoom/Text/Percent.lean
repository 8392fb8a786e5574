/-
  MeetingRoom/Text/Percent.lean
  =============================
  **Percent escapes.**

  An escape stands for one byte: a percent sign and two hexadecimal digits.
  A character is escaped byte by byte, in the encoding of texts as bytes.
-/
import MeetingRoom.Text.Hex

namespace MeetingRoom.Text

def escapeByte (b : UInt8) : List Char :=
  ['%', upperHexDigit (b.toNat / 16), upperHexDigit (b.toNat % 16)]

def escapeChar (c : Char) : List Char := (String.utf8EncodeChar c).flatMap escapeByte

/-- A text with the characters of a class escaped. -/
def escape (inClass : Char → Bool) (cs : List Char) : List Char :=
  cs.flatMap fun c => if inClass c then escapeChar c else [c]

/-- The value of a byte that is a hexadecimal digit. -/
def hexByteValue? (b : UInt8) : Option Nat := hexValue? (Char.ofNat b.toNat)

/-- The byte that three bytes stand for, if they are an escape. -/
def escaped? (sign high low : UInt8) : Option UInt8 :=
  if sign = 0x25 then do
    let x ← hexByteValue? high
    let y ← hexByteValue? low
    some (UInt8.ofNat (16 * x + y))
  else none

/-- The bytes with their escapes undone.  A percent sign that starts no escape
    stands for itself. -/
def unescape : List UInt8 → List UInt8
  | b :: high :: low :: rest =>
    match escaped? b high low with
    | some value => value :: unescape rest
    | none => b :: unescape (high :: low :: rest)
  | few => few

end MeetingRoom.Text
