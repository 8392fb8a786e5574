/-
  MeetingRoom/Url/Domain.lean
  ===========================
  **Domain names in their plain form.**

  A domain name may be written in any script.  Its plain form has lower-case
  letters, digits and a few signs only: the characters are folded and
  composed, and each label that still has others is spelled with the start
  `xn--`.  A label that is already spelled so has to stand for a text that
  needs it.  Labels are checked for joiners and for the direction in which they
  are read, and those with others than plain characters for their length.
-/
import MeetingRoom.Text.Punycode
import MeetingRoom.Text.Utf8
import MeetingRoom.Url.Domain.Joining
import MeetingRoom.Url.Domain.Mapping

namespace MeetingRoom.Domain

open Text (Punycode.encode Punycode.decode pieces)

/-- Whether a code point is outside the plain range. -/
def isForeign (n : Nat) : Bool := 0x80 ≤ n

/-- What a character is folded to; nothing if no name may contain it. -/
def fold (n : Nat) : Option (List Nat) :=
  if n < 0x80 then some [(Char.ofNat n).toLower.toNat]
  else match mapping.entry? n with
    | none => some [n]
    | some { value := none, .. } => none
    | some { value := some [target], first, .. } => some [target + (n - first)]
    | some { value := some targets, .. } => some targets

/-- A text with its characters folded and composed. -/
def folded (text : List Nat) : Option (List Nat) := do
  let images ← text.mapM fold
  return composed images.flatten

/-- The largest number of characters that a label with foreign ones may have. -/
def labelLimit : Nat := 1000

/-- The largest number of characters that spell a label. -/
def spellingLimit : Nat := 2000

/-- Whether a text may be a label: folding leaves it as it is, it does not start
    with a mark, its joiners stand where they may, and it is not too long. -/
def isFit (text : List Nat) : Bool :=
  folded text == some text && !text.head?.any isMark && joinersFit [] text &&
    text.length ≤ labelLimit

/-- The start of a label that spells another text. -/
def spelled : List Char := ['x', 'n', '-', '-']

/-- A label: the text it stands for, and its plain form. -/
structure Label where
  meaning : List Nat
  plain : List Char

/-- The label of a text whose characters are folded. -/
def Label.ofText? (text : List Char) : Option Label :=
  let codes := text.map Char.toNat
  if spelled.isPrefixOf text then
    let spelling := text.drop spelled.length
    if spellingLimit < spelling.length then none
    else match Punycode.decode spelling with
      | some meaning =>
        if meaning.any isForeign && isFit meaning then some { meaning, plain := text } else none
      | none => none
  else if codes.any isForeign then
    if isFit codes then some { meaning := codes, plain := spelled ++ Punycode.encode codes }
    else none
  else some { meaning := codes, plain := text }

/-- A character that the plain form of a name may not contain. -/
def isForbidden (c : Char) : Bool :=
  c.toNat ≤ 0x20 || c.toNat == 0x7F || "%#/:<>?@[\\]^|".toList.contains c

def plain? (bytes : List UInt8) : Option (List Char) := do
  let name ← (Text.Utf8.decode bytes).toOption
  let text ← folded (name.toList.map Char.toNat)
  let labels ← (pieces (· == '.') (text.map Char.ofNat)).mapM Label.ofText?
  let plain := ['.'].intercalate (labels.map Label.plain)
  if plain.any isForbidden || !directionsFit (labels.map Label.meaning) then none
  else some plain

end MeetingRoom.Domain
