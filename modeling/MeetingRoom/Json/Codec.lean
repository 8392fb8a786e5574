/-
  MeetingRoom/Json/Codec.lean
  ===========================
  **A type's form as data: one shape, and the way there and back.**

  A codec ties a type to the shape that its values have as data.  What is
  written is read back as the same value; that law is part of the codec.
-/
import MeetingRoom.Json.Shape.Text
import MeetingRoom.Json.Shape.Tree

namespace MeetingRoom.Json

/-- A type's form as data. -/
structure Codec (α : Type) where
  shape : Shape
  ofData : shape.Denote → α
  toData : α → shape.Denote
  ofData_toData : ∀ x, ofData (toData x) = x

namespace Codec

variable {α : Type}

def read (codec : Codec α) (v : Value) : Except Problem α :=
  (codec.shape.read v).map codec.ofData

def parse (codec : Codec α) (text : String) : Except TextError α :=
  (codec.shape.parse text).map codec.ofData

def write (codec : Codec α) (x : α) : Value := codec.shape.write (codec.toData x)

end Codec

end MeetingRoom.Json
