/-
  MeetingRoom/Json/Scan.lean
  ==========================
  **The words of the text form: blanks, names, numbers, quoted texts.**

  A scanner takes characters off the front of a text and stops at the first
  fault.  A fault is about what was already taken (`failHere`) or about the
  next byte, which it then counts (`failNext`).

  Values that nobody asked for are skipped with fewer checks: their numbers
  have no range, their escapes need not pair up, and their nesting has no
  limit.
-/
import MeetingRoom.Json.Problem

namespace MeetingRoom.Json

open MeetingRoom.Decimal (digitsValue doubleOfDigits?)
open MeetingRoom.Text (hexValue?)

/-- Takes characters off the front of a text. -/
abbrev Scan (α : Type) := StateT (List Char) (Except Fault) α

namespace Scan

variable {α : Type}

/-! ### Faults and single characters -/

/-- A fault about what was taken so far. -/
def failHere (cause : Cause) : Scan α := fun cs => .error ⟨cause, byteCount cs⟩

/-- A fault about the next byte, if there is one. -/
def failNext (cause : Cause) : Scan α := fun cs => .error ⟨cause, byteCount cs - 1⟩

/-- The text is malformed at the next byte. -/
def malformed (why : Malformation) : Scan α := failNext (.malformed why)

/-- The four characters that may stand between words. -/
def isSpace (c : Char) : Bool := c = ' ' || c = '\n' || c = '\t' || c = '\r'

/-- Skips the space between words and shows the next character. -/
def peek : Scan (Option Char) := fun cs =>
  let rest := cs.dropWhile isSpace
  .ok (rest.head?, rest)

def advance : Scan Unit := modify List.tail

/-- A fault of an object or list that is reported once its end was looked for:
    space, and the closing character if it comes next, are taken first. -/
def failAfterEnd (close : Char) (why : Problem) : Scan α := fun cs =>
  let rest := cs.dropWhile isSpace
  let rest := if rest.head? = some close then rest.tail else rest
  .error ⟨.unfit why, byteCount rest⟩

/-- Takes the rest of a word whose first character was seen. -/
def word : List Char → Scan Unit
  | [] => pure ()
  | w :: ws => fun cs =>
    match cs with
    | [] => .error ⟨.malformed .endInValue, 0⟩
    | c :: rest => if c = w then word ws rest else .error ⟨.malformed .badWord, byteCount cs - 1⟩

/-! ### Numbers -/

def digits : Scan (List Char) := fun cs =>
  .ok (cs.takeWhile Char.isDigit, cs.dropWhile Char.isDigit)

/-- The digits before the point: a zero stands alone. -/
def integerDigits : Scan (List Char) := fun cs =>
  match cs with
  | [] => .error ⟨.malformed .endInValue, 0⟩
  | c :: rest =>
    if c = '0' then
      if rest.head?.any Char.isDigit then .error ⟨.malformed .badNumber, byteCount rest - 1⟩
      else .ok (['0'], rest)
    else if c.isDigit then digits cs
    else .error ⟨.malformed .badNumber, byteCount cs - 1⟩

/-- The digits after a point; at least one. -/
def fractionDigits : Scan (List Char) := do
  let ds ← digits
  if ds.isEmpty then
    malformed (if (← get).isEmpty then .endInValue else .badNumber)
  else pure ds

/-- The largest exponent that is not refused or flattened unseen. -/
def exponentLimit : Nat := 2147483647

/-- The digits of an exponent.  `bounded` says that an exponent past the limit
    cannot be a number; the fault is at the digit that passes it. -/
def exponentDigits (bounded : Bool) : Nat → List Char → Except Fault (Nat × List Char)
  | n, [] => .ok (n, [])
  | n, c :: rest =>
    if c.isDigit then
      let next := 10 * n + (c.toNat - '0'.toNat)
      if bounded && decide (exponentLimit < next) then
        .error ⟨.malformed .numberOutOfRange, byteCount rest⟩
      else exponentDigits bounded next rest
    else .ok (n, c :: rest)

/-- The exponent after its letter: an optional sign, then digits. -/
def exponent (mantissaIsZero : Bool) : Scan Int := do
  let cs ← get
  let negative := cs.head? = some '-'
  if cs.head? = some '-' || cs.head? = some '+' then advance
  fun cs =>
    match cs with
    | [] => .error ⟨.malformed .endInValue, 0⟩
    | c :: _ =>
      if c.isDigit then do
        let (n, rest) ← exponentDigits (!mantissaIsZero && !negative) 0 cs
        .ok (if negative then -(n : Int) else n, rest)
      else .error ⟨.malformed .badNumber, byteCount cs - 1⟩

/-- The number that was read: whole if it has neither point nor exponent and
    fits, a double otherwise. -/
def numberOf? (negative : Bool) (whole fraction : List Char) (exponent : Option Int) :
    Option Number :=
  let n := digitsValue whole
  let asInt : Option Number :=
    if fraction.isEmpty && exponent.isNone && !(negative && n == 0) then
      Number.ofInt? (if negative then -(n : Int) else n)
    else none
  match asInt with
  | some number => some number
  | none =>
    (doubleOfDigits? negative whole fraction (exponent.getD 0)).map Number.double

/-- A number whose first character is a minus sign or a digit. -/
def number : Scan Number := do
  let cs ← get
  let negative := cs.head? = some '-'
  if negative then advance
  let whole ← integerDigits
  let fraction ← do
    if (← get).head? = some '.' then
      advance
      fractionDigits
    else pure []
  let zero := (whole ++ fraction).all (· = '0')
  let power ← do
    let next := (← get).head?
    if next = some 'e' || next = some 'E' then
      advance
      some <$> exponent zero
    else pure none
  match numberOf? negative whole fraction power with
  | some n => pure n
  | none => failHere (.malformed .numberOutOfRange)

/-- Skips a number: its digits are checked, its range is not. -/
def skipNumber : Scan Unit := do
  if (← get).head? = some '-' then advance
  let first := (← get).head?
  if first = some '0' then
    advance
    if (← get).head?.any Char.isDigit then malformed .badNumber
  else if first.any Char.isDigit then
    let _ ← digits
  else malformed .badNumber
  if (← get).head? = some '.' then
    advance
    let ds ← digits
    if ds.isEmpty then malformed .badNumber
  let next := (← get).head?
  if next = some 'e' || next = some 'E' then
    advance
    let sign := (← get).head?
    if sign = some '+' || sign = some '-' then advance
    let ds ← digits
    if ds.isEmpty then malformed .badNumber

/-! ### Quoted texts -/

/-- The value of the four hexadecimal digits at the front of a text. -/
def fourHexDigits (cs : List Char) : Except Fault Nat :=
  match cs with
  | a :: b :: c :: d :: rest =>
    match hexValue? a, hexValue? b, hexValue? c, hexValue? d with
    | some a, some b, some c, some d => .ok (4096 * a + 256 * b + 16 * c + d)
    | _, _, _, _ =>
      -- four bytes are taken, whatever they are
      .error ⟨.malformed .badEscape, byteCount (a :: b :: c :: d :: rest) - 4⟩
  | _ =>
    if 4 ≤ byteCount cs then .error ⟨.malformed .badEscape, byteCount cs - 4⟩
    else .error ⟨.malformed .endInText, 0⟩

/-- The second half of a surrogate pair, after the digits of the first: the
    six characters of another escape. -/
def lowSurrogate (cs : List Char) : Except Fault Nat :=
  match cs with
  | [] => .error ⟨.malformed .endInText, 0⟩
  | '\\' :: [] => .error ⟨.malformed .endInText, 0⟩
  | '\\' :: 'u' :: rest => do
    let low ← fourHexDigits rest
    if 0xDC00 ≤ low ∧ low ≤ 0xDFFF then .ok low
    else .error ⟨.malformed .loneSurrogate, byteCount rest - 4⟩
  | '\\' :: rest => .error ⟨.malformed .halfSurrogatePair, byteCount rest - 1⟩
  | _ => .error ⟨.malformed .halfSurrogatePair, byteCount cs - 1⟩

/-- The character that an escape stands for, and how many characters the
    escape has after its backslash. -/
def escape (cs : List Char) : Except Fault (Char × Nat) :=
  match cs with
  | [] => .error ⟨.malformed .endInText, 0⟩
  | '"' :: _ => .ok ('"', 1)
  | '\\' :: _ => .ok ('\\', 1)
  | '/' :: _ => .ok ('/', 1)
  | 'b' :: _ => .ok ('\x08', 1)
  | 'f' :: _ => .ok ('\x0c', 1)
  | 'n' :: _ => .ok ('\n', 1)
  | 'r' :: _ => .ok ('\r', 1)
  | 't' :: _ => .ok ('\t', 1)
  | 'u' :: rest => do
    let high ← fourHexDigits rest
    if 0xDC00 ≤ high ∧ high ≤ 0xDFFF then
      .error ⟨.malformed .loneSurrogate, byteCount rest - 4⟩
    else if 0xD800 ≤ high ∧ high ≤ 0xDBFF then
      let low ← lowSurrogate (rest.drop 4)
      .ok (Char.ofNat (0x10000 + (high - 0xD800) * 0x400 + (low - 0xDC00)), 11)
    else .ok (Char.ofNat high, 5)
  | _ => .error ⟨.malformed .badEscape, byteCount cs - 1⟩

/-- An escape in a text that is skipped: its digits are checked, what they
    stand for is not. -/
def skipEscape (cs : List Char) : Except Fault Nat :=
  match cs with
  | 'u' :: rest => do
    let _ ← fourHexDigits rest
    .ok 5
  | _ => Prod.snd <$> escape cs

/-- A quoted text after its opening quote.  The next `skip` characters belong
    to an escape that was already read; `done` holds the text so far, reversed. -/
def quotedFrom (done : List Char) : List Char → Nat → Except Fault (String × List Char)
  | [], _ => .error ⟨.malformed .endInText, 0⟩
  | _ :: rest, skip + 1 => quotedFrom done rest skip
  | c :: rest, 0 =>
    if c = '"' then .ok (String.ofList done.reverse, rest)
    else if c = '\\' then do
      let (char, size) ← escape rest
      quotedFrom (char :: done) rest size
    else if c.toNat < 0x20 then .error ⟨.malformed .controlCharacter, byteCount rest⟩
    else quotedFrom (c :: done) rest 0

/-- A quoted text; its opening quote comes next. -/
def quotedText : Scan String := fun cs => quotedFrom [] cs.tail 0

/-- Skips a quoted text after its opening quote. -/
def skipQuotedFrom : List Char → Nat → Except Fault (List Char)
  | [], _ => .error ⟨.malformed .endInText, 0⟩
  | _ :: rest, skip + 1 => skipQuotedFrom rest skip
  | c :: rest, 0 =>
    if c = '"' then .ok rest
    else if c = '\\' then do
      let size ← skipEscape rest
      skipQuotedFrom rest size
    else if c.toNat < 0x20 then .error ⟨.malformed .controlCharacter, byteCount (c :: rest)⟩
    else skipQuotedFrom rest 0

/-- Skips a quoted text; its opening quote comes next. -/
def skipQuoted : Scan Unit := fun cs => do
  let rest ← skipQuotedFrom cs.tail 0
  .ok ((), rest)

/-! ### Separators -/

def colon : Scan Unit := do
  match ← peek with
  | some ':' => advance
  | some _ => malformed .noColon
  | none => malformed .endInObject

/-- Whether a list has another element; a separating comma is taken. -/
def moreItems (first : Bool) : Scan Bool := do
  match ← peek with
  | some ']' => pure false
  | some c =>
    if first then pure true
    else if c = ',' then
      advance
      match ← peek with
      | some ']' => malformed .trailingComma
      | some _ => pure true
      | none => malformed .endInValue
    else malformed .noListSeparator
  | none => malformed .endInList

/-- Whether an object has another member; a separating comma is taken, and
    then a name must come. -/
def moreMembers (first : Bool) : Scan Bool := do
  match ← peek with
  | some '\x7d' => pure false
  | some c =>
    if first then
      if c = '"' then pure true else malformed .keyNotText
    else if c = ',' then
      advance
      match ← peek with
      | some '"' => pure true
      | some '\x7d' => malformed .trailingComma
      | some _ => malformed .keyNotText
      | none => malformed .endInValue
    else malformed .noObjectSeparator
  | none => malformed .endInObject

def endList : Scan Unit := do
  match ← peek with
  | some ']' => advance
  | some ',' =>
    advance
    if (← peek) = some ']' then malformed .trailingComma else malformed .trailingCharacters
  | some _ => malformed .trailingCharacters
  | none => malformed .endInList

def endObject : Scan Unit := do
  match ← peek with
  | some '\x7d' => advance
  | some ',' => malformed .trailingComma
  | some _ => malformed .trailingCharacters
  | none => malformed .endInObject

/-! ### Skipping -/

/-- A list or an object that is open while a value is skipped. -/
inductive Open where
  | list
  | object
deriving DecidableEq

def skipName : Scan Unit := do
  match ← peek with
  | some '"' => skipQuoted
  | some _ => malformed .keyNotText
  | none => malformed .endInObject
  colon

/-- After a value inside open lists and objects: closes those that end here.
    Yields what stays open, with a further value to come. -/
def skipEnds : List Open → Bool → Scan (List Open)
  | [], _ => pure []
  | top :: outer, afterValue => do
    match ← peek with
    | none => malformed (if top = .list then .endInList else .endInObject)
    | some c =>
      if c = ',' && afterValue then
        advance
        if top = .object then skipName
        pure (top :: outer)
      else if (top = .list && c = ']') || (top = .object && c = '\x7d') then
        advance
        skipEnds outer true
      else if afterValue then
        malformed (if top = .list then .noListSeparator else .noObjectSeparator)
      else
        if top = .object then skipName
        pure (top :: outer)

/-- Skips values until nothing is open any more.  Each round takes at least
    one character, so the length of the text bounds the rounds. -/
def skipAll : Nat → List Open → Scan Unit
  | 0, _ => malformed .endInValue
  | rounds + 1, stack => do
    let simple (skip : Scan Unit) : Scan (List Open) := do
      skip
      skipEnds stack true
    let stack ← match ← peek with
      | none => malformed .endInValue
      | some 'n' => simple (word "null".toList)
      | some 't' => simple (word "true".toList)
      | some 'f' => simple (word "false".toList)
      | some '"' => simple skipQuoted
      | some '[' => do
        advance
        skipEnds (.list :: stack) false
      | some '\x7b' => do
        advance
        skipEnds (.object :: stack) false
      | some c =>
        if c = '-' || c.isDigit then simple skipNumber else malformed .noValue
    if stack.isEmpty then pure () else skipAll rounds stack

def skipValue : Scan Unit := do
  let cs ← get
  skipAll (cs.length + 1) []

end Scan

end MeetingRoom.Json
