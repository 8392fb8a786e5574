/-
  MeetingRoom/Url/Domain/Normal.lean
  ==================================
  **The composed form of a text.**

  A letter with marks can be written in several ways.  The composed form takes
  every character apart, puts marks in the order of their classes, and then
  joins what can be joined; so two spellings of one text have one form.
-/
import MeetingRoom.Url.Domain.Composition
import MeetingRoom.Url.Domain.Mark

namespace MeetingRoom.Domain

/-! ### Korean syllables -/

/-- The first syllable. -/
def syllableBase : Nat := 0xAC00

/-- The parts of a syllable: a consonant, a vowel and perhaps a consonant. -/
def syllableParts (n : Nat) : List Nat :=
  let i := n - syllableBase
  [0x1100 + i / 588, 0x1161 + i % 588 / 28] ++ if i % 28 = 0 then [] else [0x11A7 + i % 28]

def syllable? (a b : Nat) : Option Nat :=
  if 0x1100 ≤ a ∧ a < 0x1113 ∧ 0x1161 ≤ b ∧ b < 0x1176 then
    some (syllableBase + ((a - 0x1100) * 21 + (b - 0x1161)) * 28)
  else if syllableBase ≤ a ∧ a < syllableBase + 11172 ∧ (a - syllableBase) % 28 = 0 ∧
      0x11A7 < b ∧ b < 0x11C3 then
    some (a + (b - 0x11A7))
  else none

/-! ### Taking apart -/

/-- The parts of a character, taken apart at most `depth` times. -/
def parts : Nat → Nat → List Nat
  | 0, n => [n]
  | depth + 1, n =>
    if syllableBase ≤ n ∧ n < syllableBase + 11172 then syllableParts n
    else match composition.entry? n with
      | some { value := some (a :: rest), .. } => parts depth a ++ rest
      | _ => [n]

/-- The class of a character; what is no mark has class zero. -/
def markClass (n : Nat) : Nat :=
  match marks.entry? n with
  | some { value := some (k :: _), .. } => k
  | _ => 0

def isMark (n : Nat) : Bool := (marks.entry? n).isSome

/-- Puts a character after others, which stand in reverse order: a mark goes
    before the marks of higher classes at the end. -/
def place (n : Nat) : List Nat → List Nat
  | m :: rest =>
    if 0 < markClass n ∧ markClass n < markClass m then m :: place n rest else n :: m :: rest
  | [] => [n]

/-- A text taken apart, with its marks in order. -/
def takeApart (text : List Nat) : List Nat :=
  ((text.flatMap (parts 4)).foldl (fun done n => place n done) []).reverse

/-! ### Joining -/

def joined? (a b : Nat) : Option Nat :=
  match syllable? a b with
  | some n => some n
  | none => (composition.find? fun e => e.value == some [a, b]).map Entry.first

/-- Joins what can be joined.  `base` is the last character of class zero, and
    `kept` are the marks since then that did not join it, the last one first; a
    mark that is kept hides the base from characters of its class and below. -/
def join (base : Nat) (kept : List Nat) : List Nat → List Nat
  | [] => base :: kept.reverse
  | n :: rest =>
    let visible := match kept with
      | [] => true
      | m :: _ => markClass m < markClass n
    match if visible then joined? base n else none with
    | some whole => join whole kept rest
    | none =>
      if markClass n = 0 then base :: kept.reverse ++ join n [] rest
      else join base (n :: kept) rest

def composed (text : List Nat) : List Nat :=
  match takeApart text with
  | [] => []
  | n :: rest => join n [] rest

end MeetingRoom.Domain
