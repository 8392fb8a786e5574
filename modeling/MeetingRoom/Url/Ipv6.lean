/-
  MeetingRoom/Url/Ipv6.lean
  =========================
  **Addresses of eight groups.**

  An address has eight groups of up to four hexadecimal digits between colons.
  Two colons in a row, once, stand for one or more groups of zero; the last two
  groups can be written as an address of four bytes.  In print the first of the
  longest runs of zeros is left out, if it has more than one.
-/
import MeetingRoom.Text.Hex
import MeetingRoom.Text.Split

namespace MeetingRoom

/-- An address of eight groups. -/
structure Ipv6 where
  groups : Vector UInt16 8
deriving DecidableEq, Repr

namespace Ipv6

open Text (pieces hexValue? hexText)

/-! ### Reading -/

def group? (cs : List Char) : Option Nat :=
  if 1 ≤ cs.length ∧ cs.length ≤ 4 then
    cs.foldlM (fun n c => (hexValue? c).map (16 * n + ·)) 0
  else none

/-- A decimal byte without needless zeros. -/
def byte? (cs : List Char) : Option Nat :=
  if cs.isEmpty ∨ !cs.all Char.isDigit ∨ (1 < cs.length ∧ cs.head? = some '0') then none
  else
    let n := cs.foldl (fun n c => 10 * n + (c.toNat - '0'.toNat)) 0
    if n < 256 then some n else none

/-- Two groups written as four bytes. -/
def bytes? (cs : List Char) : Option (List Nat) :=
  match (pieces (· == '.') cs).mapM byte? with
  | some [a, b, c, d] => some [256 * a + b, 256 * c + d]
  | _ => none

/-- Groups between colons; the last one can be written as four bytes if
    `bytesEnd` says so. -/
def run? (bytesEnd : Bool) : List (List Char) → Option (List Nat)
  | [] => some []
  | [last] => if bytesEnd && last.contains '.' then bytes? last else (group? last).map ([·])
  | g :: rest => do return (← group? g) :: (← run? bytesEnd rest)

/-- Groups on one side of two colons, possibly none. -/
def side? (bytesEnd : Bool) (cs : List Char) : Option (List Nat) :=
  if cs.isEmpty then some [] else run? bytesEnd (pieces (· == ':') cs)

def cutDouble? : List Char → Option (List Char × List Char)
  | ':' :: ':' :: rest => some ([], rest)
  | c :: rest => (cutDouble? rest).map fun (before, after) => (c :: before, after)
  | [] => none

def ofList? (groups : List Nat) : Option Ipv6 :=
  if h : groups.length = 8 then
    some { groups := ⟨(groups.map UInt16.ofNat).toArray, by simp [h]⟩ }
  else none

def parse? (cs : List Char) : Option Ipv6 :=
  match cutDouble? cs with
  | none => do ofList? (← run? true (pieces (· == ':') cs))
  | some (before, after) => do
    let left ← side? false before
    let right ← side? true after
    if left.length + right.length < 8 then
      ofList? (left ++ List.replicate (8 - (left.length + right.length)) 0 ++ right)
    else none

/-! ### Printing -/

def zeros (gs : List UInt16) : Nat := (gs.takeWhile (· == 0)).length

/-- The first of the longest runs of zeros: where it starts and its length. -/
def longestZeros (gs : List UInt16) : Nat × Nat :=
  (List.range gs.length).foldl (fun best i =>
    let n := zeros (gs.drop i)
    if best.2 < n then (i, n) else best) (0, 0)

def runText (gs : List UInt16) : List Char :=
  [':'].intercalate (gs.map fun g => (hexText g.toNat).toList)

/-- The address in its shortest form. -/
def text (a : Ipv6) : List Char :=
  let gs := a.groups.toList
  let (start, size) := longestZeros gs
  if size < 2 then runText gs
  else runText (gs.take start) ++ [':', ':'] ++ runText (gs.drop (start + size))

end Ipv6

end MeetingRoom
