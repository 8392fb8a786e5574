/-
  MeetingRoom/Decimal/Shortest.lean
  =================================
  **The shortest decimal that reads back as a double, and its layout.**

  A double is written with the fewest digits that round to it.  For one, two,
  … seventeen digits the two neighbours of the exact value on that decimal
  grid are tried; the first grid with a hit wins, of two hits the nearer one,
  and an exact tie goes to the even digit.

  How the digits are laid out is the choice of the format that shows them and
  is one small record.
-/
import MeetingRoom.Decimal.Double

namespace MeetingRoom.Decimal

/-! ### Digits -/

/-- The decimal `digits * 10 ^ exponent`. -/
structure Scaled where
  digits : Nat
  exponent : Int
deriving DecidableEq, Repr

def Scaled.quotient (s : Scaled) : Nat × Nat :=
  if 0 ≤ s.exponent then (s.digits * Nat.pow 10 s.exponent.toNat, 1)
  else (s.digits, Nat.pow 10 (-s.exponent).toNat)

/-- A decimal reads back as the double of a given rank. -/
def Scaled.readsAs (s : Scaled) (rank : Nat) : Bool :=
  rankOf s.quotient.1 s.quotient.2 == rank

/-- The two neighbours of `num / den` on the grid of multiples of
    `10 ^ exponent`: the one below, and whether the one above is nearer. -/
def gridBelow (num den : Nat) (exponent : Int) : Nat × Bool :=
  let (n, d) := if 0 ≤ exponent then (num, den * Nat.pow 10 exponent.toNat)
    else (num * Nat.pow 10 (-exponent).toNat, den)
  let low := n / d
  let twice := 2 * (n % d)
  (low, decide (d < twice) || (twice == d && low % 2 == 1))

/-- The decimal that stands for a rank on one grid, if the grid has one. -/
def onGrid (num den rank : Nat) (exponent : Int) : Option Scaled :=
  let (low, upper) := gridBelow num den exponent
  let below : Scaled := ⟨low, exponent⟩
  let above : Scaled := ⟨low + 1, exponent⟩
  match below.readsAs rank, above.readsAs rank with
  | true, true => some (if upper then above else below)
  | true, false => some below
  | false, true => some above
  | false, false => none

/-- The least `k` with `num / den < 10 ^ k`, searched upwards from a start
    that lies below it. -/
def decimalTop (num den : Nat) : Nat → Int → Int
  | 0, k => k
  | steps + 1, k =>
    let below := if 0 ≤ k then decide (num < den * Nat.pow 10 k.toNat)
      else decide (num * Nat.pow 10 (-k).toNat < den)
    if below then k else decimalTop num den steps (k + 1)

/-- Moves the zeros at the end of the digits into the exponent. -/
def Scaled.strip : Nat → Scaled → Scaled
  | 0, s => s
  | steps + 1, s =>
    if s.digits % 10 = 0 ∧ s.digits ≠ 0 then
      Scaled.strip steps ⟨s.digits / 10, s.exponent + 1⟩
    else s

/-- The fewest digits that read back as the magnitude of a double. -/
def Double.shortest (d : Double) : Scaled :=
  if d.rank = 0 then ⟨0, 0⟩
  else
    let (num, den) := d.magnitude
    let log : Int := (Nat.log2 num : Int) - 1074
    let top := decimalTop num den 6 (log * 30103 / 100000 - 1)
    let found := (List.range 17).findSome? fun (i : Nat) => onGrid num den d.rank (top - 1 - i)
    match found with
    | some s => Scaled.strip 20 s
    | none => ⟨num * Nat.pow 5 1074, -1074⟩

/-! ### Layout -/

/-- Where a format stops writing numbers positionally: the decimal exponents
    of the leading digit between which it does not turn to scientific form. -/
structure Layout where
  least : Option Int
  greatest : Option Int

/-- Numbers in messages about event data: positional from `10 ^ -5` up to
    below `10 ^ 16`. -/
def Layout.data : Layout := ⟨some (-5), some 15⟩

/-- Numbers in messages about configuration files: always positional. -/
def Layout.plain : Layout := ⟨none, none⟩

/-- Whether a leading digit at this exponent is written positionally. -/
def Layout.positional (layout : Layout) (exponent : Int) : Bool :=
  (layout.least.all (· ≤ exponent)) && (layout.greatest.all (exponent ≤ ·))

/-- Positional form of the digits, with a fraction even if it is zero.
    `point` digits stand before the point. -/
def positionalText (digits : List Char) (point : Int) : String :=
  let size := digits.length
  if point ≤ 0 then
    "0." ++ String.ofList (List.replicate (-point).toNat '0' ++ digits)
  else if size ≤ point.toNat then
    String.ofList (digits ++ List.replicate (point.toNat - size) '0') ++ ".0"
  else
    String.ofList (digits.take point.toNat) ++ "." ++ String.ofList (digits.drop point.toNat)

/-- Scientific form of the digits, the exponent with its sign. -/
def scientificText (digits : List Char) (exponent : Int) : String :=
  let mantissa := match digits with
    | first :: second :: rest => String.ofList (first :: '.' :: second :: rest)
    | _ => String.ofList digits
  let sign := if exponent < 0 then "-" else "+"
  mantissa ++ "e" ++ sign ++ toString exponent.natAbs

/-- A double in the fewest digits, laid out as a format wants it. -/
def Double.format (layout : Layout) (d : Double) : String :=
  let s := d.shortest
  let digits := Nat.toDigits 10 s.digits
  let exponent : Int := s.exponent + digits.length - 1
  let body := if d.rank = 0 then "0.0"
    else if layout.positional exponent then positionalText digits (exponent + 1)
    else scientificText digits exponent
  (if d.negative then "-" else "") ++ body

end MeetingRoom.Decimal
