/-
  MeetingRoom/Json/Shape/Tree.lean
  ================================
  **Reading trees under a shape, and writing them.**

  Members of an object are visited in the object's order, so the first member
  that does not fit is the problem that is reported; fields that were not found
  are looked at afterwards, in declared order.  Members that no field names are
  ignored.

  Writing orders the members of a record by name.
-/
import MeetingRoom.Json.Shape

namespace MeetingRoom.Json

/-! ### Reading -/

/-- The problem with a tree of the wrong kind. -/
def Value.mismatch (v : Value) (wanted : String) : Problem := .invalidType v.found wanted

/-- A choice read from a tree: its name, or an object that has the name as its
    only member, with nothing under it. -/
def readChoice (names : List String) : Value → Except Problem (Fin names.length)
  | .text name => choiceIndex names name
  | .object [(name, v)] => do
    let i ← choiceIndex names name
    match v with
    | .null => .ok i
    | other => .error (other.mismatch "unit")
  | .object _ => .error (.invalidValue .object "map with a single key")
  | other => .error (other.mismatch "string or map")

mutual

def Shape.read : (shape : Shape) → Value → Except Problem shape.Denote
  | .text, v =>
    match v with
    | .text s => .ok s
    | other => .error (other.mismatch "a string")
  | .flag, v =>
    match v with
    | .flag b => .ok b
    | other => .error (other.mismatch "a boolean")
  | .word32, v =>
    match v with
    | .number n => n.toWord32
    | other => .error (other.mismatch "u32")
  | .word64, v =>
    match v with
    | .number n => n.toWord64
    | other => .error (other.mismatch "u64")
  | .int64, v =>
    match v with
    | .number n => n.toInt64
    | other => .error (other.mismatch "i64")
  | .double, v =>
    match v with
    | .number n => .ok n.toDouble
    | other => .error (other.mismatch "f64")
  | .anything, v => .ok v
  | .dictionary, v =>
    match v with
    | .object members => .ok (Dictionary.ofList members)
    | other => .error (other.mismatch "a map")
  | .choice names, v => readChoice names v
  | .nullable inner, v =>
    match v with
    | .null => .ok none
    | other => (inner.read other).map some
  | .listOf item, v =>
    match v with
    | .list vs => vs.mapM item.read
    | other => .error (other.mismatch "a sequence")
  | .record name fields, v =>
    match v with
    | .object members => do
      let draft ← members.foldlM (fun draft m => fields.assign m.1 m.2 draft) fields.blank
      fields.settle draft
    | .list vs => do
      let (x, rest) ← fields.readItems (.invalidLength vs.length (recordLength name fields)) vs
      if rest.isEmpty then .ok x
      else .error (.invalidLength vs.length "fewer elements in array")
    | other => .error (other.mismatch ("struct " ++ name))

/-- Reads a member into the draft of a record, if a field has its name. -/
def Fields.assign : (fields : Fields) → String → Value → fields.Draft → Except Problem fields.Draft
  | .nil, _, _, draft => .ok draft
  | .cons name _ shape rest, key, v, (found, draft) =>
    if name = key then (shape.read v).map fun x => (some x, draft)
    else (rest.assign key v draft).map fun draft => (found, draft)

/-- Reads the fields of a record by position; `short` is the problem of a list
    that ends too soon.  Yields the elements that no field took. -/
def Fields.readItems (short : Problem) :
    (fields : Fields) → List Value → Except Problem (fields.Denote × List Value)
  | .nil, vs => .ok ((), vs)
  | .cons _ .required shape rest, vs =>
    match vs with
    | [] => .error short
    | v :: vs => do
      let x ← shape.read v
      let (more, left) ← rest.readItems short vs
      .ok ((x, more), left)
  | .cons _ .optional shape rest, vs =>
    match vs with
    | [] => do
      let (more, left) ← rest.readItems short []
      .ok ((none, more), left)
    | v :: vs => do
      let x ← shape.read v
      let (more, left) ← rest.readItems short vs
      .ok ((some x, more), left)
  | .cons _ .optionalByName shape rest, vs =>
    match vs with
    | [] => .error short
    | v :: vs => do
      let x ← shape.read v
      let (more, left) ← rest.readItems short vs
      .ok ((some x, more), left)

end

/-! ### Writing -/

mutual

def Shape.write : (shape : Shape) → shape.Denote → Value
  | .text, s => .text s
  | .flag, b => .flag b
  | .word32, n => .number (Number.ofWord32 n)
  | .word64, n => .number (Number.ofWord64 n)
  | .int64, n => .number (Number.ofInt64 n)
  | .double, d => .number (.double d)
  | .anything, v => v
  | .dictionary, d => .object d.entries
  | .choice names, i => .text (names.get i)
  | .nullable inner, x =>
    match x with
    | none => .null
    | some x => inner.write x
  | .listOf item, xs => .list (xs.map item.write)
  | .record _ fields, x => Value.ofMembers (fields.write x)

/-- Writes the fields of a record; a field that is left out has no member. -/
def Fields.write : (fields : Fields) → fields.Denote → List (String × Value)
  | .nil, _ => []
  | .cons name .required shape rest, (x, more) => (name, shape.write x) :: rest.write more
  | .cons name .optional shape rest, (x, more) =>
    match x with
    | some x => (name, shape.write x) :: rest.write more
    | none => rest.write more
  | .cons name .optionalByName shape rest, (x, more) =>
    match x with
    | some x => (name, shape.write x) :: rest.write more
    | none => rest.write more

end

end MeetingRoom.Json
