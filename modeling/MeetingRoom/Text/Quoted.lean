/-
  MeetingRoom/Text/Quoted.lean
  ============================
  **A text between double quotes, as messages show it.**

  Quotes, backslashes and the common controls are written with a backslash;
  an unprintable character is written by its number in hexadecimal.
-/
import MeetingRoom.Text.Hex
import MeetingRoom.Text.Unprintable

namespace MeetingRoom.Text

def quotedChar (c : Char) : String :=
  if c = '"' then "\\\""
  else if c = '\\' then "\\\\"
  else if c = '\n' then "\\n"
  else if c = '\r' then "\\r"
  else if c = '\t' then "\\t"
  else if c.toNat = 0 then "\\0"
  else if isUnprintable c then "\\u\x7b" ++ hexText c.toNat ++ "\x7d"
  else c.toString

def quoted (s : String) : String :=
  "\"" ++ String.join (s.toList.map quotedChar) ++ "\""

end MeetingRoom.Text
