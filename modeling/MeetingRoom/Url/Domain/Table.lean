/-
  MeetingRoom/Url/Domain/Table.lean
  =================================
  **Tables of characters.**

  A table is written as entries between blanks.  An entry is a hexadecimal
  number or a range of numbers, possibly with a step, and after a colon the
  numbers that are its value, if it has one: `c0-d6:e0`, `100-12e/2:101`,
  `bc:31,2044,34`.
-/
import MeetingRoom.Text.Hex
import MeetingRoom.Text.Split

namespace MeetingRoom.Domain

open Text (cut pieces hexValue?)

/-- Numbers from `first` to `last`, and their value. -/
structure Entry where
  first : Nat
  last : Nat
  step : Nat := 1
  value : Option (List Nat) := none
deriving Repr

abbrev Table := List Entry

def Entry.covers (e : Entry) (n : Nat) : Bool :=
  e.first ≤ n && n ≤ e.last && (n - e.first) % e.step == 0

def hexNumber (cs : List Char) : Nat :=
  cs.foldl (fun n c => 16 * n + (hexValue? c).getD 0) 0

def hexNumbers (cs : List Char) : List Nat :=
  ((pieces (· == ',') cs).filter (!·.isEmpty)).map hexNumber

def Entry.ofText (cs : List Char) : Entry :=
  let (range, value) := cut (· == ':') cs
  let (range, step) := cut (· == '/') range
  let (first, last) := cut (· == '-') range
  { first := hexNumber first
    last := hexNumber (last.getD first)
    step := (step.map hexNumber).getD 1
    value := value.map hexNumbers }

namespace Table

def ofText (text : String) : Table :=
  (text.splitOn "\n").flatMap fun line =>
    ((line.splitOn " ").filter (!·.isEmpty)).map fun word => Entry.ofText word.toList

def entry? (t : Table) (n : Nat) : Option Entry := t.find? (·.covers n)

def has (t : Table) (n : Nat) : Bool := t.any (·.covers n)

end Table

end MeetingRoom.Domain
