/-
  MeetingRoom/Toml/Parse.lean
  ===========================
  **Documents from configuration texts.**

  A text is a sequence of lines: keys with their values, headers that say
  which table the keys after them go into, comments, and empty lines.
-/
import MeetingRoom.Toml.Words

namespace MeetingRoom.Toml

namespace Take

variable {α : Type}

/-! ### Values -/

/-- The values of a list, after its opening bracket, and its end. -/
def listFrom (value : Take Node) : Nat → Take (List Node)
  | 0 => failure
  | rounds + 1 => do
    gaps
    if ← skips ']' then pure []
    else
      let v ← value
      gaps
      if ← skips ',' then
        let more ← listFrom value rounds
        pure (v :: more)
      else
        exactly ']'
        pure [v]

/-- A key within braces: its path, its last name and its value. -/
def pair (value : Take Node) : Take (List String × String × Node) := do
  let names ← key
  exactly '='
  space
  let v ← value
  match names.getLast? with
  | some last => pure (names.dropLast, last, v)
  | none => failure

/-- The keys within braces after the first, and their end. -/
def pairsFrom (value : Take Node) : Nat → Take (List (List String × String × Node))
  | 0 => failure
  | rounds + 1 => do
    let p ← pair value
    space
    if ← skips ',' then
      let more ← pairsFrom value rounds
      pure (p :: more)
    else
      exactly '\x7d'
      pure [p]

def inlineTable (value : Take Node) : Take Node := do
  space
  let pairs ←
    if ← skips '\x7d' then pure [] else pairsFrom value (← rounds)
  match Node.ofPairs pairs with
  | some node => pure node
  | none => failure

/-- A value, with so many more levels of nesting allowed. -/
def value (levels : Nat) : Take Node := do
  match ← peek with
  | some '"' | some '\'' => Node.text <$> text
  | some '[' =>
    match levels with
    | 0 => failure
    | inner + 1 => do
      let _ ← char
      Node.list <$> listFrom (value inner) (← rounds)
  | some '\x7b' =>
    match levels with
    | 0 => failure
    | inner + 1 => do
      let _ ← char
      inlineTable (value inner)
  | some 't' => do
    literal "true"
    pure (.flag true)
  | some 'f' => do
    literal "false"
    pure (.flag false)
  | some _ => number
  | none => failure

/-! ### Lines -/

def accept (outcome : Option α) : Take α := fun cs => outcome.map (·, cs)

def definition (d : Draft) : Take Draft := do
  let (path, last, v) ← pair (value (nesting - 1))
  trailing
  accept (d.define path last v)

/-- A line with a header, after its first bracket. -/
def header (d : Draft) : Take Draft := do
  let repeated ← skips '['
  let path ← key
  exactly ']'
  if repeated then exactly ']'
  trailing
  accept (if repeated then d.openRepeated path else d.openTable path)

def linesOf : Nat → Draft → Take Draft
  | 0, _ => failure
  | rounds + 1, d => do
    space
    match ← peek with
    | none => pure d
    | some '#' => do
      comment
      lineEnd
      linesOf rounds d
    | some '[' => do
      let _ ← char
      let d ← header d
      linesOf rounds d
    | some '\n' | some '\r' => do
      newline
      linesOf rounds d
    | some _ => do
      let d ← definition d
      linesOf rounds d

/-- A document; a byte order mark before it is skipped. -/
def document : Take Node := do
  let _ ← skips '\ufeff'
  let d ← linesOf (← rounds) {}
  accept d.finish

end Take

/-- What a configuration text defines, in the order of definition. -/
def parse? (text : String) : Option (List (String × Node)) :=
  match Take.document text.toList with
  | some (.table _ entries, _) => some entries
  | _ => none

end MeetingRoom.Toml
