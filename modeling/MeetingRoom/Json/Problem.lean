/-
  MeetingRoom/Json/Problem.lean
  =============================
  **Why data is refused.**

  A tree can be *unfit* for the shape it is read under; a text can in addition
  be *malformed*.  A text's error also says where: the place is kept as the
  number of bytes that follow it, which is what a reader knows when it stops,
  and turned into a line and a column once, when the error is reported.
-/
import MeetingRoom.Decimal.Shortest
import MeetingRoom.Json.Value
import MeetingRoom.Text.Quoted

namespace MeetingRoom.Json

open MeetingRoom.Decimal (Double Layout)
open MeetingRoom.Text (quoted)

/-! ### Unfit data -/

/-- What was found where something else was wanted. -/
inductive Found where
  | null
  | flag (value : Bool)
  | whole (value : Int)
  | double (value : Double)
  | text (value : String)
  | list
  | object
deriving DecidableEq

def Found.describe : Found → String
  | .null => "null"
  | .flag b => "boolean `" ++ (if b then "true" else "false") ++ "`"
  | .whole n => "integer `" ++ toString n ++ "`"
  | .double d => "floating point `" ++ d.format Layout.data ++ "`"
  | .text s => "string " ++ quoted s
  | .list => "sequence"
  | .object => "map"

/-- What a number is to one who did not want a number. -/
def Number.found : Number → Found
  | .whole n _ => .whole n
  | .double d => .double d

/-- What a tree is to one who wanted something else. -/
def Value.found : Value → Found
  | .null => .null
  | .flag b => .flag b
  | .number n => n.found
  | .text s => .text s
  | .list _ => .list
  | .object _ => .object

/-- Why a tree does not fit the shape it is read under. -/
inductive Problem where
  | invalidType (found : Found) (wanted : String)
  | invalidValue (found : Found) (wanted : String)
  | invalidLength (length : Nat) (wanted : String)
  | missingField (name : String)
  | duplicateField (name : String)
  | unknownVariant (name : String) (known : List String)
deriving DecidableEq

def Problem.message : Problem → String
  | .invalidType found wanted => "invalid type: " ++ found.describe ++ ", expected " ++ wanted
  | .invalidValue found wanted => "invalid value: " ++ found.describe ++ ", expected " ++ wanted
  | .invalidLength length wanted =>
    "invalid length " ++ toString length ++ ", expected " ++ wanted
  | .missingField name => "missing field `" ++ name ++ "`"
  | .duplicateField name => "duplicate field `" ++ name ++ "`"
  | .unknownVariant name known =>
    "unknown variant `" ++ name ++ "`, expected one of " ++
      ", ".intercalate (known.map fun k => "`" ++ k ++ "`")

/-! ### Malformed text -/

/-- Why a text is no tree. -/
inductive Malformation where
  | endInList
  | endInObject
  | endInText
  | endInValue
  | noColon
  | noListSeparator
  | noObjectSeparator
  | badWord
  | noValue
  | badEscape
  | badNumber
  | numberOutOfRange
  | controlCharacter
  | keyNotText
  | loneSurrogate
  | halfSurrogatePair
  | trailingComma
  | trailingCharacters
  | tooDeep
deriving DecidableEq, Repr

def Malformation.message : Malformation → String
  | .endInList => "EOF while parsing a list"
  | .endInObject => "EOF while parsing an object"
  | .endInText => "EOF while parsing a string"
  | .endInValue => "EOF while parsing a value"
  | .noColon => "expected `:`"
  | .noListSeparator => "expected `,` or `]`"
  | .noObjectSeparator => "expected `,` or `\x7d`"
  | .badWord => "expected ident"
  | .noValue => "expected value"
  | .badEscape => "invalid escape"
  | .badNumber => "invalid number"
  | .numberOutOfRange => "number out of range"
  | .controlCharacter => "control character (\\u0000-\\u001F) found while parsing a string"
  | .keyNotText => "key must be a string"
  | .loneSurrogate => "lone leading surrogate in hex escape"
  | .halfSurrogatePair => "unexpected end of hex escape"
  | .trailingComma => "trailing comma"
  | .trailingCharacters => "trailing characters"
  | .tooDeep => "recursion limit exceeded"

/-- Why a text is refused. -/
inductive Cause where
  | malformed (why : Malformation)
  | unfit (why : Problem)
deriving DecidableEq

def Cause.message : Cause → String
  | .malformed why => why.message
  | .unfit why => why.message

/-- A cause, and how many bytes of the text follow the place it is about. -/
structure Fault where
  cause : Cause
  left : Nat
deriving DecidableEq

/-! ### Places -/

def byteCount (cs : List Char) : Nat := cs.foldl (fun n c => n + c.utf8Size) 0

/-- A line, counted from one, and a column in bytes. -/
structure Place where
  line : Nat
  column : Nat
deriving DecidableEq, Repr

/-- The place after the first `offset` bytes of a text: a line feed among them
    starts a new line. -/
def placeAt (cs : List Char) (offset : Nat) : Place :=
  go cs offset ⟨1, 0⟩
where
  go : List Char → Nat → Place → Place
    | [], _, place => place
    | c :: rest, offset, place =>
      if offset = 0 then place
      else if c = '\n' then go rest (offset - 1) ⟨place.line + 1, 0⟩
      else if offset < c.utf8Size then ⟨place.line, place.column + offset⟩
      else go rest (offset - c.utf8Size) ⟨place.line, place.column + c.utf8Size⟩

/-- The error of reading a text: the cause, and the place it is about. -/
structure TextError where
  cause : Cause
  place : Place
deriving DecidableEq

def TextError.message (e : TextError) : String :=
  e.cause.message ++ " at line " ++ toString e.place.line ++
    " column " ++ toString e.place.column

/-- The error that a fault in a text amounts to. -/
def Fault.inText (cs : List Char) (f : Fault) : TextError :=
  ⟨f.cause, placeAt cs (byteCount cs - f.left)⟩

end MeetingRoom.Json
