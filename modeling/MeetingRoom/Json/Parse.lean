/-
  MeetingRoom/Json/Parse.lean
  ===========================
  **Trees from their text form.**

  Lists and objects may be nested to a fixed depth; the depth that is left
  bounds the recursion.  An object's members go to their places by name, and
  of two members with one name the later one counts.
-/
import MeetingRoom.Json.Scan

namespace MeetingRoom.Json

namespace Scan

variable {α : Type}

/-- The nesting that a text may have. -/
def nesting : Nat := 127

/-- The elements of a list up to its end, which is not taken.  Each round
    takes at least one character. -/
def itemsFrom (item : Scan α) : Nat → Bool → Scan (List α)
  | 0, _ => malformed .endInList
  | rounds + 1, first => do
    if ← moreItems first then
      let x ← item
      let xs ← itemsFrom item rounds false
      pure (x :: xs)
    else pure []

/-- The elements of a list, after its opening bracket, and its end. -/
def items (item : Scan α) : Scan (List α) := do
  let cs ← get
  let xs ← itemsFrom item (cs.length + 1) true
  endList
  pure xs

/-- The members of an object up to its end, which is not taken. -/
def membersFrom (value : Scan α) : Nat → Bool → Scan (List (String × α))
  | 0, _ => malformed .endInObject
  | rounds + 1, first => do
    if ← moreMembers first then
      let name ← quotedText
      colon
      let x ← value
      let xs ← membersFrom value rounds false
      pure ((name, x) :: xs)
    else pure []

/-- The members of an object, after its opening brace, and its end. -/
def members (value : Scan α) : Scan (List (String × α)) := do
  let cs ← get
  let xs ← membersFrom value (cs.length + 1) true
  endObject
  pure xs

/-- A tree, with so many more levels of nesting allowed. -/
def value (levels : Nat) : Scan Value := do
  match ← peek with
  | none => malformed .endInValue
  | some 'n' => do
    word "null".toList
    pure .null
  | some 't' => do
    word "true".toList
    pure (.flag true)
  | some 'f' => do
    word "false".toList
    pure (.flag false)
  | some '"' => Value.text <$> quotedText
  | some '[' =>
    match levels with
    | 0 => malformed .tooDeep
    | inner + 1 => do
      advance
      Value.list <$> items (value inner)
  | some '\x7b' =>
    match levels with
    | 0 => malformed .tooDeep
    | inner + 1 => do
      advance
      Value.ofMembers <$> members (value inner)
  | some c =>
    if c = '-' || c.isDigit then Value.number <$> number else malformed .noValue

/-- Reads a whole text: nothing but space may follow. -/
def whole (scan : Scan α) (text : String) : Except TextError α :=
  let cs := text.toList
  let all : Scan α := do
    let x ← scan
    match ← peek with
    | none => pure x
    | some _ => malformed .trailingCharacters
  match all cs with
  | .ok (x, _) => .ok x
  | .error fault => .error (fault.inText cs)

end Scan

def Value.parse (text : String) : Except TextError Value :=
  Scan.whole (Scan.value Scan.nesting) text

end MeetingRoom.Json
