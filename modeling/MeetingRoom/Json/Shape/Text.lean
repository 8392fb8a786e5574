/-
  MeetingRoom/Json/Shape/Text.lean
  ================================
  **Reading a text directly under a shape.**

  The text is read and checked in one pass, so the first fault in reading
  order is the one reported, be it of the text or of what it says.  What is
  read is what reading the text's tree would give; the two ways differ in what
  they refuse.  Here a member that comes twice is refused if a field has its
  name, and a member that no field names is skipped with fewer checks.

  A problem with one value is reported after the value; a problem with a
  record as a whole is reported after the record's end.
-/
import MeetingRoom.Json.Parse
import MeetingRoom.Json.Shape

namespace MeetingRoom.Json

namespace Scan

variable {α : Type}

/-- A value that nobody can use here: scalars are taken before the problem is
    reported, lists and objects are not. -/
def mismatch (wanted : String) : Scan α := do
  let refuse (found : Found) : Scan α := failHere (.unfit (.invalidType found wanted))
  match ← peek with
  | none => malformed .endInValue
  | some 'n' => do
    word "null".toList
    refuse .null
  | some 't' => do
    word "true".toList
    refuse (.flag true)
  | some 'f' => do
    word "false".toList
    refuse (.flag false)
  | some '"' => do
    let s ← quotedText
    refuse (.text s)
  | some '[' => refuse .list
  | some '\x7b' => refuse .object
  | some c =>
    if c = '-' || c.isDigit then do
      let n ← number
      refuse n.found
    else malformed .noValue

def text (wanted : String) : Scan String := do
  if (← peek) = some '"' then quotedText else mismatch wanted

/-- Takes the outcome of a check; a problem is about what was taken. -/
def accept (outcome : Except Problem α) : Scan α :=
  match outcome with
  | .ok x => pure x
  | .error why => failHere (.unfit why)

def numeric (wanted : String) (check : Number → Except Problem α) : Scan α := do
  match ← peek with
  | some c =>
    if c = '-' || c.isDigit then do
      let n ← number
      accept (check n)
    else mismatch wanted
  | none => mismatch wanted

/-- A choice: its name, or an object that has the name as its only member,
    with nothing under it. -/
def choice (names : List String) (levels : Nat) : Scan (Fin names.length) := do
  let name : Scan (Fin names.length) := do
    let s ← quotedText
    accept (choiceIndex names s)
  match ← peek with
  | some '"' => name
  | some '\x7b' =>
    if levels = 0 then malformed .tooDeep
    advance
    let i ← match ← peek with
      | some '"' => name
      | some '\x7d' => malformed .noValue
      | some _ => malformed .keyNotText
      | none => malformed .endInValue
    colon
    if (← peek) = some 'n' then word "null".toList else mismatch "unit"
    match ← peek with
    | some '\x7d' => do
      advance
      pure i
    | some _ => failHere (.malformed .noValue)
    | none => failHere (.malformed .endInObject)
  | none => malformed .endInValue
  | some _ => malformed .noValue

/-- Adds members to the draft of a record up to the object's end, which is not
    taken.  `field` reads the value for a name, if there is such a field. -/
def draftFrom (field : String → α → Option (Scan α)) : Nat → Bool → α → Scan α
  | 0, _, _ => malformed .endInObject
  | rounds + 1, first, draft => do
    if ← moreMembers first then
      let name ← quotedText
      let draft ← match field name draft with
        | some read => read
        | none => do
          colon
          skipValue
          pure draft
      draftFrom field rounds false draft
    else pure draft

end Scan

open Scan

mutual

/-- Reads a value from a text under a shape, with so many more levels of
    nesting allowed. -/
def Shape.scan : (shape : Shape) → Nat → Scan shape.Denote
  | .text, _ => text "a string"
  | .flag, _ => do
    match ← peek with
    | some 't' => do
      word "true".toList
      pure true
    | some 'f' => do
      word "false".toList
      pure false
    | _ => mismatch "a boolean"
  | .word32, _ => numeric "u32" Number.toWord32
  | .word64, _ => numeric "u64" Number.toWord64
  | .int64, _ => numeric "i64" Number.toInt64
  | .double, _ => numeric "f64" fun n => .ok n.toDouble
  | .anything, levels => value levels
  | .dictionary, levels => do
    match ← peek with
    | some '\x7b' =>
      match levels with
      | 0 => malformed .tooDeep
      | inner + 1 => do
        advance
        Dictionary.ofList <$> members (value inner)
    | _ => mismatch "a map"
  | .choice names, levels => choice names levels
  | .nullable inner, levels => do
    match ← peek with
    | some 'n' => do
      word "null".toList
      pure none
    | _ => some <$> inner.scan levels
  | .listOf item, levels => do
    match ← peek with
    | some '[' =>
      match levels with
      | 0 => malformed .tooDeep
      | inner + 1 => do
        advance
        items (item.scan inner)
    | _ => mismatch "a sequence"
  | .record name fields, levels => do
    match ← peek with
    | some '\x7b' =>
      match levels with
      | 0 => malformed .tooDeep
      | inner + 1 => do
        advance
        let cs ← get
        let draft ← draftFrom (fun key draft => fields.scanMember inner key draft)
          (cs.length + 1) true fields.blank
        match fields.settle draft with
        | .ok x => do
          endObject
          pure x
        | .error why => failAfterEnd '\x7d' why
    | some '[' =>
      match levels with
      | 0 => malformed .tooDeep
      | inner + 1 => do
        advance
        let x ← fields.scanItems inner (recordLength name fields) 0
        endList
        pure x
    | _ => mismatch ("struct " ++ name)

/-- Reads the value of a member into the draft of a record, if a field has the
    member's name; such a member may come once. -/
def Fields.scanMember :
    (fields : Fields) → Nat → String → fields.Draft → Option (Scan fields.Draft)
  | .nil, _, _, _ => none
  | .cons name _ shape rest, levels, key, (found, draft) =>
    if name = key then
      some do
        if found.isSome then failAfterEnd '\x7d' (.duplicateField name)
        else
          colon
          let x ← shape.scan levels
          pure (some x, draft)
    else
      (rest.scanMember levels key draft).map fun read => do
        let draft ← read
        pure (found, draft)

/-- Reads the fields of a record by position, `taken` elements being read. -/
def Fields.scanItems :
    (fields : Fields) → Nat → String → Nat → Scan fields.Denote
  | .nil, _, _, _ => pure ()
  | .cons _ .required shape rest, levels, wanted, taken => do
    if ← moreItems (taken == 0) then
      let x ← shape.scan levels
      let more ← rest.scanItems levels wanted (taken + 1)
      pure (x, more)
    else failAfterEnd ']' (.invalidLength taken wanted)
  | .cons _ .optional shape rest, levels, wanted, taken => do
    if ← moreItems (taken == 0) then
      let x ← shape.scan levels
      let more ← rest.scanItems levels wanted (taken + 1)
      pure (some x, more)
    else
      let more ← rest.scanItems levels wanted taken
      pure (none, more)
  | .cons _ .optionalByName shape rest, levels, wanted, taken => do
    if ← moreItems (taken == 0) then
      let x ← shape.scan levels
      let more ← rest.scanItems levels wanted (taken + 1)
      pure (some x, more)
    else failAfterEnd ']' (.invalidLength taken wanted)

end

def Shape.parse (shape : Shape) (text : String) : Except TextError shape.Denote :=
  Scan.whole (shape.scan Scan.nesting) text

end MeetingRoom.Json
