/-
  MeetingRoom/Url/Ipv4.lean
  =========================
  **Addresses of four bytes.**

  An address has up to four numbers between dots, each decimal, octal after a
  zero or hexadecimal after `0x`.  The last number fills all the bytes that the
  numbers before it leave, so `1.2.3` is `1.2.0.3`.  One dot at the end is
  allowed.
-/
import MeetingRoom.Text.Hex
import MeetingRoom.Text.Split

namespace MeetingRoom

/-- An address of four bytes. -/
structure Ipv4 where
  bits : UInt32
deriving DecidableEq, Repr

namespace Ipv4

open Text (pieces hexValue?)

def digitsValue? (base : Nat) (cs : List Char) : Option Nat :=
  cs.foldlM (fun n c => do
    let d ← hexValue? c
    if d < base then some (base * n + d) else none) 0

def number? : List Char → Option Nat
  | [] => none
  | ['0'] => some 0
  | '0' :: 'x' :: cs | '0' :: 'X' :: cs => digitsValue? 16 cs
  | '0' :: cs => digitsValue? 8 cs
  | cs => digitsValue? 10 cs

def parts (cs : List Char) : List (List Char) :=
  let ps := pieces (· == '.') cs
  if 1 < ps.length ∧ ps.getLast? = some [] then ps.dropLast else ps

/-- Whether a name is to be read as an address: its last part is a number. -/
def isMeant (cs : List Char) : Bool :=
  match (parts cs).getLast? with
  | some last => (!last.isEmpty && last.all Char.isDigit) || (number? last).isSome
  | none => false

/-- The address whose last number is `last`, after single bytes. -/
def ofNumbers? (bytes : List Nat) (last : Nat) : Option Ipv4 :=
  if bytes.length < 4 ∧ bytes.all (· < 256) ∧ last < Nat.pow 256 (4 - bytes.length) then
    let high := bytes.foldl (fun n b => 256 * n + b) 0
    some { bits := UInt32.ofNat (high * Nat.pow 256 (4 - bytes.length) + last) }
  else none

def parse? (cs : List Char) : Option Ipv4 := do
  let numbers ← (parts cs).mapM number?
  ofNumbers? numbers.dropLast (← numbers.getLast?)

def bytes (a : Ipv4) : List Nat :=
  let n := a.bits.toNat
  [n >>> 24, (n >>> 16) % 256, (n >>> 8) % 256, n % 256]

/-- The bytes in decimal, with dots between them. -/
def text (a : Ipv4) : List Char := ['.'].intercalate (a.bytes.map fun b => (toString b).toList)

end Ipv4

end MeetingRoom
