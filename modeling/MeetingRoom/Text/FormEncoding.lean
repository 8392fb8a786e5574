/-
  MeetingRoom/Text/FormEncoding.lean
  ==================================
  **Pairs of texts as the text of a form.**

  A pair is a name, an equals sign and a value, and ampersands stand between
  pairs.  Within names and values letters, digits and `*-._` stand for
  themselves, a space is a plus sign, and everything else is escaped byte by
  byte; so no separator is left inside.
-/
import MeetingRoom.Text.Percent
import MeetingRoom.Text.Split
import MeetingRoom.Text.Utf8

namespace MeetingRoom.Text.FormEncoding

/-! ### Writing -/

/-- A character that stands for itself. -/
def isPlain (c : Char) : Bool := c.isAlphanum || c == '*' || c == '-' || c == '.' || c == '_'

def encodeChar (c : Char) : List Char :=
  if c = ' ' then ['+'] else if isPlain c then [c] else escapeChar c

def encodeText (s : String) : List Char := s.toList.flatMap encodeChar

def encodePair (p : String × String) : List Char := encodeText p.1 ++ '=' :: encodeText p.2

/-- The written form of pairs after what was written before. -/
def append (before : List Char) : List (String × String) → List Char
  | [] => before
  | p :: rest =>
    append (if before.isEmpty then encodePair p else before ++ '&' :: encodePair p) rest

def encode (ps : List (String × String)) : List Char := append [] ps

/-! ### Reading -/

/-- The text that a written name or value stands for. -/
def decodeText (cs : List Char) : Except Utf8.Flaw String :=
  Utf8.decode
    (unescape ((Utf8.encode (String.ofList cs)).map fun b => if b = 0x2B then 0x20 else b))

/-- The pair that a written pair stands for.  Without an equals sign it has an
    empty value. -/
def decodePair (cs : List Char) : Except Utf8.Flaw (String × String) := do
  let (name, value) := cut (· == '=') cs
  return (← decodeText name, ← decodeText (value.getD []))

/-- The pairs that a text stands for.  Nothing between two ampersands is no
    pair. -/
def decode (cs : List Char) : Except Utf8.Flaw (List (String × String)) :=
  ((pieces (· == '&') cs).filter (!·.isEmpty)).mapM decodePair

end MeetingRoom.Text.FormEncoding
