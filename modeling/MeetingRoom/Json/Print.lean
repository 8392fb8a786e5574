/-
  MeetingRoom/Json/Print.lean
  ===========================
  **The compact text form of a tree.**

  No space is written between words.  In a quoted text the quote, the
  backslash and the controls are escaped, the common controls by a letter; all
  other characters stand for themselves.
-/
import MeetingRoom.Json.Value
import MeetingRoom.Decimal.Shortest

namespace MeetingRoom.Json

open MeetingRoom.Decimal (Layout)

/-- A hexadecimal digit in lower case. -/
def hexDigitChar (n : Nat) : Char := (Nat.digitChar (n % 16))

def printChar (c : Char) : List Char :=
  if c = '"' then ['\\', '"']
  else if c = '\\' then ['\\', '\\']
  else if c = '\x08' then ['\\', 'b']
  else if c = '\x0c' then ['\\', 'f']
  else if c = '\n' then ['\\', 'n']
  else if c = '\r' then ['\\', 'r']
  else if c = '\t' then ['\\', 't']
  else if c.toNat < 0x20 then
    ['\\', 'u', '0', '0', hexDigitChar (c.toNat / 16), hexDigitChar c.toNat]
  else [c]

def printText (s : String) : List Char := '"' :: s.toList.flatMap printChar ++ ['"']

def Number.print : Number → List Char
  | .whole n _ => (toString n).toList
  | .double d => (d.format Layout.data).toList

namespace Value

mutual

def printChars : Value → List Char
  | .null => "null".toList
  | .flag b => (if b then "true" else "false").toList
  | .number n => n.print
  | .text s => printText s
  | .list items => '[' :: printItems items true ++ [']']
  | .object members => '\x7b' :: printMembers members true ++ ['\x7d']

/-- The elements of a list, a comma before all but the first. -/
def printItems : List Value → Bool → List Char
  | [], _ => []
  | v :: rest, first => (if first then [] else [',']) ++ printChars v ++ printItems rest false

/-- The members of an object, a comma before all but the first. -/
def printMembers : List (String × Value) → Bool → List Char
  | [], _ => []
  | (name, v) :: rest, first =>
    (if first then [] else [',']) ++ printText name ++ ':' :: printChars v ++
      printMembers rest false

end

def print (v : Value) : String := String.ofList v.printChars

end Value

end MeetingRoom.Json
