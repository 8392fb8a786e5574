/-
  MeetingRoom/Text/Punycode.lean
  ==============================
  **Texts of any characters in letters, digits and hyphens.**

  The plain characters of a text are written first, then a hyphen, and after it
  the other characters, each as the distance from the one before in the order
  of code points and, within one code point, of places.  A distance is a number
  in base 36 whose digits have changing limits, so it needs no separator; the
  limits follow from the distances so far.
-/
namespace MeetingRoom.Text.Punycode

/-! ### Digits -/

def digitChar (d : Nat) : Char :=
  if d < 26 then Char.ofNat ('a'.toNat + d) else Char.ofNat ('0'.toNat + (d - 26))

def digitValue? (c : Char) : Option Nat :=
  if 'a' ≤ c ∧ c ≤ 'z' then some (c.toNat - 'a'.toNat)
  else if 'A' ≤ c ∧ c ≤ 'Z' then some (c.toNat - 'A'.toNat)
  else if c.isDigit then some (c.toNat - '0'.toNat + 26)
  else none

/-- The limit of the digit at a place: one below it the number ends. -/
def limit (bias place : Nat) : Nat := min 26 (max 1 (place - bias))

theorem limit_pos (bias place : Nat) : 1 ≤ limit bias place := by unfold limit; omega

def scaleDown (delta place : Nat) : Nat × Nat :=
  if 455 < delta then scaleDown (delta / 35) (place + 36) else (delta, place)
termination_by delta
decreasing_by omega

def nextBias (delta points : Nat) (isFirst : Bool) : Nat :=
  let delta := if isFirst then delta / 700 else delta / 2
  let (delta, place) := scaleDown (delta + delta / points) 0
  place + 36 * delta / (delta + 38)

/-- The digits of a distance, from a place on. -/
def digits (bias place q : Nat) : List Char :=
  let t := limit bias place
  if q < t then [digitChar q]
  else digitChar (t + (q - t) % (36 - t)) :: digits bias (place + 36) ((q - t) / (36 - t))
termination_by q
decreasing_by
  have := limit_pos bias place
  have := Nat.div_le_self (q - limit bias place) (36 - limit bias place)
  omega

/-! ### Writing -/

/-- How far the writing is. -/
structure Progress where
  /-- What is written, the last character first. -/
  written : List Char
  delta : Nat := 0
  bias : Nat := 72
  /-- The number of characters dealt with. -/
  done : Nat

/-- Passes one character while the characters of code point `n` are written. -/
def Progress.pass (plain n : Nat) (s : Progress) (c : Nat) : Progress :=
  if c < n then { s with delta := s.delta + 1 }
  else if c = n then
    { written := (digits s.bias 36 s.delta).reverse ++ s.written
      delta := 0
      bias := nextBias s.delta (s.done + 1) (s.done == plain)
      done := s.done + 1 }
  else s

/-- Writes the characters of the code points in a list, which ascends from
    `least` on. -/
def writeFrom (text : List Nat) (plain least : Nat) : List Nat → Progress → Progress
  | [], s => s
  | n :: rest, s =>
    let s := { s with delta := s.delta + (n - least) * (s.done + 1) }
    let s := text.foldl (Progress.pass plain n) s
    writeFrom text plain (n + 1) rest { s with delta := s.delta + 1 }

/-- The code points of a text in letters, digits and hyphens. -/
def encode (text : List Nat) : List Char :=
  let plain := text.filter (· < 0x80)
  let others := (text.filter (0x80 ≤ ·)).mergeSort.eraseDups
  let start := if plain.isEmpty then [] else '-' :: (plain.map Char.ofNat).reverse
  let written := writeFrom text plain.length 128 others { written := start, done := plain.length }
  written.written.reverse

/-! ### Reading -/

/-- What distances, and the weights of their digits, stay below. -/
def distanceLimit : Nat := UInt32.size

/-- Reads a distance; the rest is shorter. -/
def readDistance (bias : Nat) : (place weight sum : Nat) → (cs : List Char) →
    Option (Nat × { rest : List Char // rest.length < cs.length })
  | _, _, _, [] => none
  | place, weight, sum, c :: rest =>
    match digitValue? c with
    | none => none
    | some d =>
      let t := limit bias place
      let sum := sum + d * weight
      if distanceLimit ≤ sum then none
      else if d < t then some (sum, ⟨rest, by simp⟩)
      else if distanceLimit ≤ weight * (36 - t) then none
      else
        match readDistance bias (place + 36) (weight * (36 - t)) sum rest with
        | none => none
        | some (total, ⟨more, h⟩) => some (total, ⟨more, by simp; omega⟩)

/-- Reads the characters that follow the plain ones and puts each at its
    place. -/
def readInto (text : List Nat) (n i bias : Nat) (cs : List Char) : Option (List Nat) :=
  if cs.isEmpty then some text
  else
    match readDistance bias 36 1 i cs with
    | none => none
    | some (total, ⟨rest, _⟩) =>
      let points := text.length + 1
      let n := n + total / points
      if n.isValidChar then
        readInto (text.insertIdx (total % points) n) n (total % points + 1)
          (nextBias (total - i) points (i == 0)) rest
      else none
termination_by cs.length

/-- The code points that letters, digits and hyphens stand for.  A hyphen at the
    start separates nothing and is no digit. -/
def decode (cs : List Char) : Option (List Nat) :=
  let tail := (cs.reverse.takeWhile (· != '-')).reverse
  let plain := cs.take (cs.length - tail.length - 1)
  if cs.all (·.toNat < 0x80) && (!plain.isEmpty || tail.length == cs.length) then
    readInto (plain.map Char.toNat) 128 0 72 tail
  else none

end MeetingRoom.Text.Punycode
