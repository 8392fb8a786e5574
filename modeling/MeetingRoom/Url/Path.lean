/-
  MeetingRoom/Url/Path.lean
  =========================
  **The path of an address.**

  A path is a list of segments, or a text that is kept as it is written.  While
  a list is read, a segment of one dot is left out and one of two dots removes
  the segment before it, unless that is a drive; at the end of the path both
  leave an empty segment.
-/
import MeetingRoom.Text.Percent
import MeetingRoom.Text.Split

namespace MeetingRoom

/-- The path of an address. -/
inductive Path where
  | segments (names : List (List Char))
  | verbatim (text : List Char)
deriving DecidableEq, Repr

namespace Path

open Text (escape)

def text : Path → List Char
  | .segments names => names.flatMap ('/' :: ·)
  | .verbatim cs => cs

/-- The text of a path where no host stands before it: two slashes at its start
    would announce one. -/
def textAlone : Path → List Char
  | .segments ([] :: next :: rest) => '/' :: '.' :: (segments ([] :: next :: rest)).text
  | p => p.text

/-- A character that is escaped in a segment. -/
def isEscaped (c : Char) : Bool :=
  c.toNat < 0x20 || 0x7F ≤ c.toNat || " \"<>`#?{}".toList.contains c

/-- The dots of a segment with escaped dots written out. -/
def dots : List Char → Option Nat
  | [] => some 0
  | '.' :: rest => (dots rest).map (· + 1)
  | '%' :: '2' :: 'e' :: rest | '%' :: '2' :: 'E' :: rest => (dots rest).map (· + 1)
  | _ => none

def isDrive : List Char → Bool
  | [c, sign] => c.isAlpha && (sign == ':' || sign == '|')
  | _ => false

/-- A segment that two dots do not remove: a drive, in addresses of every kind. -/
def isAnchor : List Char → Bool
  | c :: sign :: rest => isDrive [c, sign] && (rest.isEmpty || rest.head? == some '\\')
  | _ => false

/-- The segments without the last one, in reverse order. -/
def shorten : List (List Char) → List (List Char)
  | last :: rest => if isAnchor last then last :: rest else rest
  | [] => []

/-- A segment as it is kept.  `mendsDrive` says that a drive at the start gets a
    colon. -/
def kept (mendsDrive : Bool) (reversed : List (List Char)) (segment : List Char) : List Char :=
  match reversed, segment with
  | [], [c, sign] => if mendsDrive && isDrive [c, sign] then [c, ':'] else escape isEscaped segment
  | _, _ => escape isEscaped segment

/-- Adds segments to those before them, which stand in reverse order. -/
def walk (mendsDrive : Bool) (reversed : List (List Char)) :
    List (List Char) → List (List Char)
  | [] => reversed.reverse
  | segment :: rest =>
    match dots segment, rest with
    | some 1, [] => ([] :: reversed).reverse
    | some 2, [] => ([] :: shorten reversed).reverse
    | some 1, _ => walk mendsDrive reversed rest
    | some 2, _ => walk mendsDrive (shorten reversed) rest
    | _, _ => walk mendsDrive (kept mendsDrive reversed segment :: reversed) rest

/-- The segments of a text that starts after the first slash. -/
def ofText (mendsDrive : Bool) (isSlash : Char → Bool) (cs : List Char) : List (List Char) :=
  walk mendsDrive [] (Text.pieces isSlash cs)

end Path

end MeetingRoom
