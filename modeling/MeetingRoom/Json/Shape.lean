/-
  MeetingRoom/Json/Shape.lean
  ===========================
  **Shapes: what data must look like, and the type of what is read.**

  A shape describes the data that one place accepts, and `Shape.Denote` is the
  type of the values that are read there.  A record has named fields in a
  declared order.  It is read from an object, by name, or from a list, by
  position; which fields may be left out is part of the shape.

  One shape serves three ways: reading a tree, reading a text directly (with
  the place of the first fault), and writing.  So a type has one description,
  and what holds of all shapes is shown once.
-/
import MeetingRoom.Json.Problem

namespace MeetingRoom.Json

open MeetingRoom.Decimal (Double)

/-- When a field of a record may be left out. -/
inductive Presence where
  /-- It must be there. -/
  | required
  /-- It may be absent from an object, and the fields from it on from a list. -/
  | optional
  /-- It may be absent from an object, but not from a list. -/
  | optionalByName
deriving DecidableEq, Repr

mutual

/-- What data must look like. -/
inductive Shape where
  | text
  | flag
  | word32
  | word64
  | int64
  | double
  | anything
  | dictionary
  | choice (names : List String)
  | nullable (inner : Shape)
  | listOf (item : Shape)
  | record (name : String) (fields : Fields)

/-- The fields of a record in their declared order. -/
inductive Fields where
  | nil
  | cons (name : String) (presence : Presence) (shape : Shape) (rest : Fields)

end

/-! ### What is read -/

/-- What a field holds: nothing is a possible value unless it is required. -/
@[reducible] def Presence.Holds (presence : Presence) (α : Type) : Type :=
  match presence with
  | .required => α
  | .optional => Option α
  | .optionalByName => Option α

mutual

/-- The values that are read under a shape. -/
@[reducible] def Shape.Denote : Shape → Type
  | .text => String
  | .flag => Bool
  | .word32 => UInt32
  | .word64 => UInt64
  | .int64 => Int64
  | .double => Double
  | .anything => Value
  | .dictionary => Dictionary Value
  | .choice names => Fin names.length
  | .nullable inner => Option inner.Denote
  | .listOf item => List item.Denote
  | .record _ fields => fields.Denote

/-- The values of the fields of a record, in declared order. -/
@[reducible] def Fields.Denote : Fields → Type
  | .nil => Unit
  | .cons _ presence shape rest => presence.Holds shape.Denote × rest.Denote

end

/-- A record while it is read: what was found so far for each field. -/
@[reducible] def Fields.Draft : Fields → Type
  | .nil => Unit
  | .cons _ _ shape rest => Option shape.Denote × rest.Draft

namespace Fields

def count : Fields → Nat
  | .nil => 0
  | .cons _ _ _ rest => rest.count + 1

/-- The names of the fields in declared order. -/
def names : Fields → List String
  | .nil => []
  | .cons name _ _ rest => name :: rest.names

/-- The draft before anything was found. -/
def blank : (fields : Fields) → fields.Draft
  | .nil => ()
  | .cons _ _ _ rest => (none, rest.blank)

/-- The record that a draft amounts to, once all members were seen.  The first
    missing required field in declared order is the problem. -/
def settle : (fields : Fields) → fields.Draft → Except Problem fields.Denote
  | .nil, _ => .ok ()
  | .cons name .required _ rest, (found, draft) =>
    match found with
    | some x => (rest.settle draft).map (x, ·)
    | none => .error (.missingField name)
  | .cons _ .optional _ rest, (found, draft) => (rest.settle draft).map (found, ·)
  | .cons _ .optionalByName _ rest, (found, draft) => (rest.settle draft).map (found, ·)

end Fields

/-! ### Words for what is wanted -/

/-- What a shape wants, in the words of a problem. -/
def Shape.wanted : Shape → String
  | .text => "a string"
  | .flag => "a boolean"
  | .word32 => "u32"
  | .word64 => "u64"
  | .int64 => "i64"
  | .double => "f64"
  | .anything => "any valid JSON value"
  | .dictionary => "a map"
  | .choice _ => "string or map"
  | .nullable inner => inner.wanted
  | .listOf _ => "a sequence"
  | .record name _ => "struct " ++ name

/-- What a record wants of a list, in the words of a problem. -/
def recordLength (name : String) (fields : Fields) : String :=
  "struct " ++ name ++ " with " ++ toString fields.count ++
    (if fields.count = 1 then " element" else " elements")

/-- The place of a name in a choice. -/
def choiceIndex (names : List String) (name : String) : Except Problem (Fin names.length) :=
  match names.findFinIdx? (· == name) with
  | some i => .ok i
  | none => .error (.unknownVariant name names)

/-! ### Whole numbers within bounds -/

def Number.toWord32 : Number → Except Problem UInt32
  | .whole n _ =>
    if 0 ≤ n ∧ n < 0x100000000 then .ok (UInt32.ofNat n.toNat)
    else .error (.invalidValue (.whole n) Shape.word32.wanted)
  | .double d => .error (.invalidType (.double d) Shape.word32.wanted)

def Number.toWord64 : Number → Except Problem UInt64
  | .whole n _ =>
    if 0 ≤ n ∧ n < 0x10000000000000000 then .ok (UInt64.ofNat n.toNat)
    else .error (.invalidValue (.whole n) Shape.word64.wanted)
  | .double d => .error (.invalidType (.double d) Shape.word64.wanted)

def Number.toInt64 : Number → Except Problem Int64
  | .whole n _ =>
    if -0x8000000000000000 ≤ n ∧ n < 0x8000000000000000 then .ok (Int64.ofInt n)
    else .error (.invalidValue (.whole n) Shape.int64.wanted)
  | .double d => .error (.invalidType (.double d) Shape.int64.wanted)

end MeetingRoom.Json
