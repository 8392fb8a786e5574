/-
  MeetingRoom/Toml/Words.lean
  ===========================
  **The words of a configuration text: keys, texts, numbers, times.**

  A reader takes characters off the front of the text, or has no result; why
  a text is malformed is not reported.  Loops are bounded by the length of the
  text that is left, as each round takes a character.
-/
import MeetingRoom.Toml.Node

namespace MeetingRoom.Toml

open MeetingRoom.Decimal (Double digitsValue)
open MeetingRoom.Text (hexValue?)

/-- Takes characters off the front of a text. -/
abbrev Take (α : Type) := StateT (List Char) Option α

namespace Take

variable {α : Type}

/-! ### Characters -/

def char : Take Char := fun cs =>
  match cs with
  | [] => none
  | c :: rest => some (c, rest)

/-- Shows the next character. -/
def peek : Take (Option Char) := fun cs => some (cs.head?, cs)

def exactly (c : Char) : Take Unit := do
  if (← char) = c then pure () else failure

def literal (word : String) : Take Unit := fun cs =>
  let w := word.toList
  if w.isPrefixOf cs then some ((), cs.drop w.length) else none

def skips (c : Char) : Take Bool := fun cs =>
  if cs.head? = some c then some (true, cs.tail) else some (false, cs)

def takeWhile (p : Char → Bool) : Take (List Char) := fun cs =>
  some (cs.takeWhile p, cs.dropWhile p)

/-- The second reader, where the first has no result. -/
def orElse (first second : Take α) : Take α := fun cs =>
  match first cs with
  | some r => some r
  | none => second cs

def optional (take : Take α) : Take (Option α) := fun cs =>
  match take cs with
  | some (x, rest) => some (some x, rest)
  | none => some (none, cs)

/-- The length of the text that is left, plus one. -/
def rounds : Take Nat := fun cs => some (cs.length + 1, cs)

/-! ### Space, line ends, comments -/

def isSpace (c : Char) : Bool := c = ' ' || c = '\t'

def space : Take Unit := do
  let _ ← takeWhile isSpace

def newline : Take Unit := do
  match ← char with
  | '\n' => pure ()
  | '\r' => exactly '\n'
  | _ => failure

/-- A character that may stand in a comment or in a text on one line: no
    control but the tab. -/
def isPlain (c : Char) : Bool :=
  c = '\t' || (0x20 ≤ c.toNat && c.toNat ≤ 0x7E) || 0x80 ≤ c.toNat

def comment : Take Unit := do
  if ← skips '#' then
    let _ ← takeWhile isPlain

/-- Takes a line end or meets the end of the text. -/
def lineEnd : Take Unit := do
  if (← peek).isSome then newline

/-- What may follow on the line of a definition. -/
def trailing : Take Unit := do
  space
  comment
  lineEnd

/-- Skips space, line ends and comments between the elements of a list. -/
def gapsFrom : Nat → Take Unit
  | 0 => pure ()
  | rounds + 1 => do
    space
    match ← peek with
    | some '#' => do
      comment
      newline
      gapsFrom rounds
    | some '\n' | some '\r' => do
      newline
      gapsFrom rounds
    | _ => pure ()

def gaps : Take Unit := do
  gapsFrom (← rounds)

/-! ### Texts -/

/-- The number that so many hexadecimal digits spell. -/
def hexNumber (start : Nat) : Nat → Take Nat
  | 0 => pure start
  | more + 1 => do
    match hexValue? (← char) with
    | some d => hexNumber (16 * start + d) more
    | none => failure

def charOf (n : Nat) : Take Char :=
  if n.isValidChar then pure (Char.ofNat n) else failure

/-- What an escape stands for; its backslash was taken. -/
def escaped : Take Char := do
  match ← char with
  | 'b' => pure '\x08'
  | 't' => pure '\t'
  | 'n' => pure '\n'
  | 'f' => pure '\x0c'
  | 'r' => pure '\r'
  | '"' => pure '"'
  | '\\' => pure '\\'
  | 'u' => do charOf (← hexNumber 0 4)
  | 'U' => do charOf (← hexNumber 0 8)
  | _ => failure

/-- A quoted text with escapes, after its opening quote. -/
def basicFrom : Nat → List Char → Take String
  | 0, _ => failure
  | rounds + 1, done => do
    match ← char with
    | '"' => pure (String.ofList done.reverse)
    | '\\' => do
      let c ← escaped
      basicFrom rounds (c :: done)
    | c => if isPlain c then basicFrom rounds (c :: done) else failure

/-- A quoted text without escapes, after its opening quote. -/
def rawFrom : Nat → List Char → Take String
  | 0, _ => failure
  | rounds + 1, done => do
    match ← char with
    | '\'' => pure (String.ofList done.reverse)
    | c => if isPlain c then rawFrom rounds (c :: done) else failure

/-- Quotes within a text over several lines: fewer than three are part of the
    text.  Three end it; up to two before them still belong to it.  Yields how
    many belong to the text, and whether it ended. -/
def quotes (quote : Char) : Take (Nat × Bool) := fun cs =>
  let size := (cs.takeWhile (· = quote)).length
  if size < 3 then some ((size, false), cs.drop size)
  else
    let extra := min (size - 3) 2
    some ((extra, true), cs.drop (extra + 3))

/-- A text without the space and line ends at its start. -/
def afterBlanks : List Char → List Char
  | ' ' :: cs | '\t' :: cs | '\n' :: cs | '\r' :: '\n' :: cs => afterBlanks cs
  | cs => cs

/-- A backslash at the end of a line takes the space and line ends after it
    away. -/
def foldedLine : Take Unit := do
  space
  newline
  fun cs => some ((), afterBlanks cs)

/-- A text over several lines, after its opening quotes.  `escapes` tells
    whether it has escapes. -/
def linesFrom (quote : Char) (escapes : Bool) : Nat → List Char → Take String
  | 0, _ => failure
  | rounds + 1, done => do
    match ← peek with
    | none => failure
    | some c =>
      if c = quote then
        let (size, ended) ← quotes quote
        let done := List.replicate size quote ++ done
        if ended then pure (String.ofList done.reverse) else linesFrom quote escapes rounds done
      else if c = '\\' && escapes then
        let _ ← char
        match ← optional foldedLine with
        | some () => linesFrom quote escapes rounds done
        | none => do
          let c ← escaped
          linesFrom quote escapes rounds (c :: done)
      else if c = '\n' || c = '\r' then
        newline
        linesFrom quote escapes rounds ('\n' :: done)
      else if isPlain c then
        let _ ← char
        linesFrom quote escapes rounds (c :: done)
      else failure

/-- A text over several lines; a line end right after the opening quotes is
    not part of it. -/
def lines (quote : Char) (escapes : Bool) : Take String := do
  literal (String.ofList [quote, quote, quote])
  let _ ← optional newline
  linesFrom quote escapes (← rounds) []

def lineText : Take String := do
  match ← char with
  | '"' => do basicFrom (← rounds) []
  | '\'' => do rawFrom (← rounds) []
  | _ => failure

def text : Take String :=
  orElse (lines '"' true) (orElse (lines '\'' false) lineText)

/-! ### Keys -/

def isKeyChar (c : Char) : Bool := c.isAlphanum || c = '-' || c = '_'

def name : Take String := do
  match ← peek with
  | some '"' | some '\'' => lineText
  | _ => do
    let cs ← takeWhile isKeyChar
    if cs.isEmpty then failure else pure (String.ofList cs)

def namesFrom : Nat → Take (List String)
  | 0 => failure
  | rounds + 1 => do
    space
    let first ← name
    space
    if ← skips '.' then
      let more ← namesFrom rounds
      pure (first :: more)
    else pure [first]

/-- How deep keys and values may be nested. -/
def nesting : Nat := 80

def key : Take (List String) := do
  let names ← namesFrom (← rounds)
  if names.length < nesting then pure names else failure

/-! ### Numbers -/

/-- Digits, of which single underscores may separate any two. -/
def digitsFrom (isDigit : Char → Bool) : Nat → Take (List Char)
  | 0 => failure
  | rounds + 1 => do
    let c ← char
    if !isDigit c then failure
    match ← peek with
    | some '_' => do
      let _ ← char
      let more ← digitsFrom isDigit rounds
      pure (c :: more)
    | some d =>
      if isDigit d then
        let more ← digitsFrom isDigit rounds
        pure (c :: more)
      else pure [c]
    | none => pure [c]

/-- Digits with single underscores. -/
def digits (isDigit : Char → Bool) : Take (List Char) := do
  digitsFrom isDigit (← rounds)

/-- A sign, if one comes next; whether it is a minus. -/
def sign : Take Bool := do
  if ← skips '-' then pure true
  else
    let _ ← skips '+'
    pure false

/-- A sign and digits; a zero stands alone. -/
def decimalDigits : Take (Bool × List Char) := do
  let negative ← sign
  if (← peek) = some '0' then
    let _ ← char
    pure (negative, ['0'])
  else
    let ds ← digits Char.isDigit
    pure (negative, ds)

def wholeOf (n : Int) : Take Node :=
  if -0x8000000000000000 ≤ n ∧ n < 0x8000000000000000 then pure (.whole n) else failure

/-- A whole number in another base, after its prefix. -/
def based (base : Nat) (isDigit : Char → Bool) : Take Node := do
  let ds ← digits isDigit
  wholeOf (ds.foldl (fun n d => base * n + (hexValue? d).getD 0) 0 : Nat)

def whole : Take Node := fun cs =>
  match cs with
  | '0' :: 'x' :: rest => based 16 (fun c => (hexValue? c).isSome) rest
  | '0' :: 'o' :: rest => based 8 (fun c => '0' ≤ c && c ≤ '7') rest
  | '0' :: 'b' :: rest => based 2 (fun c => c = '0' || c = '1') rest
  | cs => (do
      let (negative, ds) ← decimalDigits
      let n : Int := digitsValue ds
      wholeOf (if negative then -n else n) : Take Node) cs

def power : Take Int := do
  match ← char with
  | 'e' | 'E' => do
    let negative ← sign
    let ds ← digits Char.isDigit
    let n : Int := digitsValue ds
    pure (if negative then -n else n)
  | _ => failure

/-- The number with the given digits.  A number that is too large is refused,
    unless it is negative. -/
def realOf (negative : Bool) (whole fraction : List Char) (exponent : Int) : Take Node :=
  match Double.ofDecimal? negative (digitsValue (whole ++ fraction))
      (exponent - fraction.length) with
  | some d => pure (.real (.finite d))
  | none => if negative then pure (.real (.infinite true)) else failure

/-- A number with a fraction, an exponent, or both. -/
def fractional : Take Node := do
  let (negative, ds) ← decimalDigits
  if ← skips '.' then
    let fraction ← digits Char.isDigit
    let exponent ← match ← peek with
      | some 'e' | some 'E' => power
      | _ => pure 0
    realOf negative ds fraction exponent
  else
    let exponent ← power
    realOf negative ds [] exponent

def namedNumber : Take Node := do
  let negative ← sign
  orElse
    (do
      literal "inf"
      pure (.real (.infinite negative)))
    (do
      literal "nan"
      pure (.real .notANumber))

/-! ### Dates and times -/

/-- A number of exactly so many digits within bounds. -/
def field (size low high : Nat) : Take Nat := fun cs =>
  let ds := cs.take size
  let n := digitsValue ds
  if ds.length = size ∧ ds.all Char.isDigit ∧ low ≤ n ∧ n ≤ high then some (n, cs.drop size)
  else none

def daysIn (year month : Nat) : Nat :=
  if month = 2 then
    if year % 4 = 0 && (year % 100 != 0 || year % 400 = 0) then 29 else 28
  else if month = 4 || month = 6 || month = 9 || month = 11 then 30
  else 31

def date : Take Unit := do
  let year ← field 4 0 9999
  exactly '-'
  let month ← field 2 1 12
  exactly '-'
  let _ ← field 2 1 (daysIn year month)

def time : Take Unit := do
  let _ ← field 2 0 23
  exactly ':'
  let _ ← field 2 0 59
  exactly ':'
  let _ ← field 2 0 60
  if ← skips '.' then
    let ds ← takeWhile Char.isDigit
    if ds.isEmpty then failure

/-- The distance of a time from universal time. -/
def zone : Take Unit := do
  match ← char with
  | 'Z' | 'z' => pure ()
  | '+' | '-' => do
    let _ ← field 2 0 23
    exactly ':'
    let _ ← field 2 0 59
  | _ => failure

def timeOfDate : Take Unit := do
  match ← char with
  | 'T' | 't' | ' ' => do
    time
    let _ ← optional zone
  | _ => failure

def moment : Take Node :=
  orElse
    (do
      date
      let _ ← optional timeOfDate
      pure .moment)
    (do
      time
      pure .moment)

def number : Take Node :=
  orElse moment (orElse fractional (orElse namedNumber whole))

end Take

end MeetingRoom.Toml
