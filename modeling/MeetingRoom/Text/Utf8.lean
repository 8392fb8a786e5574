/-
  MeetingRoom/Text/Utf8.lean
  ==========================
  **Texts from bytes.**

  Bytes are a text if they are the encodings of its characters one after the
  other.  If they are not, the flaw says where the valid part ends and how many
  bytes the first invalid sequence has: the bytes that could still have started
  a character.  A sequence that the end of the input cuts short has no length.
-/
namespace MeetingRoom.Text.Utf8

/-- Why bytes are no text. -/
inductive Flaw where
  | invalid (size index : Nat)
  | incomplete (index : Nat)
deriving DecidableEq, Repr

def Flaw.message : Flaw → String
  | .invalid size index =>
    "invalid utf-8 sequence of " ++ toString size ++ " bytes from index " ++ toString index
  | .incomplete index => "incomplete utf-8 byte sequence from index " ++ toString index

def isTail (b : UInt8) : Bool := 0x80 ≤ b.toNat && b.toNat ≤ 0xBF

/-- What may follow the first byte of a character: the bounds of the second
    byte, and how many bytes follow in all. -/
def following (first : UInt8) : Option (Nat × Nat × Nat) :=
  let b := first.toNat
  if 0xC2 ≤ b ∧ b ≤ 0xDF then some (0x80, 0xBF, 1)
  else if b = 0xE0 then some (0xA0, 0xBF, 2)
  else if b = 0xED then some (0x80, 0x9F, 2)
  else if 0xE1 ≤ b ∧ b ≤ 0xEF then some (0x80, 0xBF, 2)
  else if b = 0xF0 then some (0x90, 0xBF, 3)
  else if 0xF1 ≤ b ∧ b ≤ 0xF3 then some (0x80, 0xBF, 3)
  else if b = 0xF4 then some (0x80, 0x8F, 3)
  else none

/-- The outcome of reading one character off the front. -/
inductive Step where
  | char (c : Char) (size : Nat)
  | invalid (size : Nat)
  | incomplete
deriving DecidableEq, Repr

/-- The six bits of a byte that continues a character. -/
def tailBits (b : UInt8) : Nat := b.toNat % 64

/-- Reads the character that starts with `first`. -/
def step (first : UInt8) (rest : List UInt8) : Step :=
  if first.toNat < 0x80 then .char (Char.ofNat first.toNat) 1
  else match following first with
  | none => .invalid 1
  | some (low, high, more) =>
    match rest with
    | [] => .incomplete
    | second :: rest =>
      if ¬ (low ≤ second.toNat ∧ second.toNat ≤ high) then .invalid 1
      else if more = 1 then
        .char (Char.ofNat (first.toNat % 32 * 64 + tailBits second)) 2
      else match rest with
      | [] => .incomplete
      | third :: rest =>
        if !isTail third then .invalid 2
        else if more = 2 then
          .char (Char.ofNat (first.toNat % 16 * 4096 + tailBits second * 64 + tailBits third)) 3
        else match rest with
        | [] => .incomplete
        | fourth :: _ =>
          if !isTail fourth then .invalid 3
          else
            .char (Char.ofNat (first.toNat % 8 * 262144 + tailBits second * 4096 +
              tailBits third * 64 + tailBits fourth)) 4

/-- Reads characters from a byte index on.  The next `skip` bytes belong to a
    character that was already read. -/
def decodeFrom (index : Nat) : List UInt8 → Nat → Except Flaw (List Char)
  | [], _ => .ok []
  | _ :: rest, skip + 1 => decodeFrom (index + 1) rest skip
  | first :: rest, 0 =>
    match step first rest with
    | .char c size => (decodeFrom (index + 1) rest (size - 1)).map (c :: ·)
    | .invalid size => .error (.invalid size index)
    | .incomplete => .error (.incomplete index)

def decode (bytes : List UInt8) : Except Flaw String :=
  (decodeFrom 0 bytes 0).map String.ofList

def encode (s : String) : List UInt8 := s.toList.flatMap String.utf8EncodeChar

end MeetingRoom.Text.Utf8
