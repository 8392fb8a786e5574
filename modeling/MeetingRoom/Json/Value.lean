/-
  MeetingRoom/Json/Value.lean
  ===========================
  **Trees of event data.**

  A payload whose meaning is not known yet, or is nobody's business here (tool
  arguments, data references), is a tree.  Numbers are whole numbers of 64
  bits or doubles; objects list their members in ascending order of the names.

  `Value.same` is equality as data: it differs from equality only in that the
  two zeros are one number.
-/
import MeetingRoom.Decimal.Double
import MeetingRoom.Dictionary

namespace MeetingRoom.Json

open MeetingRoom.Decimal (Double)

/-! ### Numbers -/

/-- A number: whole if it is written as an integer and fits 64 bits (signed
    below zero, unsigned from zero on), a double otherwise. -/
inductive Number where
  | whole (value : Int) (fits : -0x8000000000000000 ≤ value ∧ value < 0x10000000000000000)
  | double (value : Double)
deriving DecidableEq

namespace Number

/-- Whole if the integer fits. -/
def ofInt? (n : Int) : Option Number :=
  if h : -0x8000000000000000 ≤ n ∧ n < 0x10000000000000000 then some (.whole n h) else none

def toDouble : Number → Double
  | .whole n _ => Double.ofInt n
  | .double d => d

def ofWord32 (n : UInt32) : Number :=
  .whole n.toNat ⟨by omega, by have := n.toNat_lt; omega⟩

def ofWord64 (n : UInt64) : Number :=
  .whole n.toNat ⟨by omega, by have := n.toNat_lt; omega⟩

def ofInt64 (n : Int64) : Number :=
  .whole n.toInt ⟨by have := n.le_toInt; omega, by have := n.toInt_lt; omega⟩

/-- Equality as data. -/
def same : Number → Number → Bool
  | .whole a _, .whole b _ => a == b
  | .double a, .double b => a.same b
  | _, _ => false

end Number

/-! ### Trees -/

/-- A tree of data. -/
inductive Value where
  | null
  | flag (value : Bool)
  | number (value : Number)
  | text (value : String)
  | list (items : List Value)
  | object (members : List (String × Value))

instance : Inhabited Value := ⟨.null⟩

namespace Value

/-- An object from members in any order; the last one under a name counts. -/
def ofMembers (members : List (String × Value)) : Value :=
  .object (Entries.insertAll members [])

def member? (name : String) : Value → Option Value
  | .object members => Entries.find? name members
  | _ => none

mutual

/-- Every object in the tree lists its members in ascending order. -/
def Ordered : Value → Prop
  | .list items => OrderedItems items
  | .object members => Entries.Ascending members ∧ OrderedMembers members
  | _ => True

/-- The elements of a list are ordered. -/
def OrderedItems : List Value → Prop
  | [] => True
  | v :: rest => Ordered v ∧ OrderedItems rest

/-- The values of an object's members are ordered. -/
def OrderedMembers : List (String × Value) → Prop
  | [] => True
  | (_, v) :: rest => Ordered v ∧ OrderedMembers rest

end

mutual

/-- Equality as data. -/
def same : Value → Value → Bool
  | .null, .null => true
  | .flag a, .flag b => a == b
  | .number a, .number b => a.same b
  | .text a, .text b => a == b
  | .list as, .list bs => sameItems as bs
  | .object as, .object bs => sameMembers as bs
  | _, _ => false

/-- Elementwise equality of lists as data. -/
def sameItems : List Value → List Value → Bool
  | [], [] => true
  | a :: as, b :: bs => same a b && sameItems as bs
  | _, _ => false

/-- Equality of the members of two objects as data. -/
def sameMembers : List (String × Value) → List (String × Value) → Bool
  | [], [] => true
  | (m, a) :: as, (n, b) :: bs => m == n && same a b && sameMembers as bs
  | _, _ => false

end

mutual

/-- How many lists and objects are nested in a tree. -/
def depth : Value → Nat
  | .list items => depthItems items + 1
  | .object members => depthMembers members + 1
  | _ => 0

/-- The greatest depth of the elements of a list. -/
def depthItems : List Value → Nat
  | [] => 0
  | v :: rest => max (depth v) (depthItems rest)

/-- The greatest depth of the values of an object. -/
def depthMembers : List (String × Value) → Nat
  | [] => 0
  | (_, v) :: rest => max (depth v) (depthMembers rest)

end

end Value

end MeetingRoom.Json
