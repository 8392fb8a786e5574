/-
  MeetingRoom/Decimal/Double.lean
  ===============================
  **Finite double precision numbers as a sign and a rank.**

  The non-negative finite doubles are counted upwards from zero; the *rank* of
  a double is its place in that order.  The rank is also the number that the
  63 low bits spell, so the bits, the order and the equality of doubles all
  come from it, and "finite" is one bound.

  A rational number is rounded to the nearest double, a tie going to the even
  rank, by exact arithmetic on naturals.
-/
namespace MeetingRoom.Decimal

/-- A finite double: a sign, and the place of its magnitude among the
    non-negative doubles. -/
structure Double where
  negative : Bool
  rank : Nat
  rank_lt : rank < 2047 <<< 52
deriving DecidableEq

namespace Double

def zero : Double := ⟨false, 0, by decide⟩

def one : Double := ⟨false, 1023 <<< 52, by decide⟩

instance : Inhabited Double := ⟨zero⟩

/-- The 64 bits of the interchange format. -/
def bits (d : Double) : Nat :=
  d.rank + if d.negative then 1 <<< 63 else 0

/-- Equality as numbers: the two zeros are one number. -/
def same (a b : Double) : Bool :=
  a.rank == b.rank && (a.negative == b.negative || a.rank == 0)

/-- The magnitude is `significand * 2 ^ (scale - 1074)`. -/
def significand (d : Double) : Nat :=
  if d.rank < 1 <<< 52 then d.rank else (1 <<< 52) + d.rank % (1 <<< 52)

/-- The binary scale that goes with `significand`. -/
def scale (d : Double) : Nat := (d.rank >>> 52) - 1

/-- The magnitude as a quotient of naturals. -/
def magnitude (d : Double) : Nat × Nat :=
  (d.significand <<< d.scale, 1 <<< 1074)

end Double

/-! ### Rounding -/

/-- A quotient rounded to the nearest natural, a tie to the even one. -/
def roundEven (num den : Nat) : Nat :=
  let low := num / den
  let twice := 2 * (num % den)
  if twice < den then low
  else if den < twice then low + 1
  else if low % 2 = 0 then low else low + 1

/-- The rank of the double nearest to `num / den`; past the last finite rank
    when the quotient is too large.  The spacing of the doubles around the
    quotient is fixed by the power of two below it. -/
def rankOf (num den : Nat) : Nat :=
  if num = 0 then 0
  else
    -- multiplying by `2 ^ 1074` makes the finest spacing one
    let n := num <<< 1074
    let guess := Nat.log2 n - Nat.log2 den
    let top := if n < den <<< guess then guess - 1 else guess
    let scale := top - 52
    (scale <<< 52) + roundEven n (den <<< scale)

namespace Double

/-- The double nearest to a signed quotient, unless it is too large. -/
def nearest? (negative : Bool) (num den : Nat) : Option Double :=
  if h : rankOf num den < 2047 <<< 52 then some ⟨negative, rankOf num den, h⟩ else none

/-- The double nearest to an integer of at most 64 bits.  Larger integers do
    not occur; the zero that stands for them is never reached. -/
def ofInt (n : Int) : Double :=
  (nearest? (decide (n < 0)) n.natAbs 1).getD zero

/-- The double nearest to `digits * 10 ^ exponent`, unless it is too large.
    Exponents far outside the range of doubles are settled without computing
    their power. -/
def ofDecimal? (negative : Bool) (digits : Nat) (exponent : Int) : Option Double :=
  let size : Int := exponent + (Nat.toDigits 10 digits).length
  if digits = 0 ∨ size < -330 then some ⟨negative, 0, by decide⟩
  else if 310 < size then none
  else if 0 ≤ exponent then nearest? negative (digits * Nat.pow 10 exponent.toNat) 1
  else nearest? negative digits (Nat.pow 10 (-exponent).toNat)

end Double

/-! ### Products and quotients -/

namespace Double

/-- The product of a double and a positive one, rounded, unless it is too
    large. -/
def times? (a b : Double) : Option Double :=
  nearest? a.negative (a.magnitude.1 * b.magnitude.1) (a.magnitude.2 * b.magnitude.2)

/-- The quotient of a double and a positive one, rounded, unless it is too
    large. -/
def over? (a b : Double) : Option Double :=
  nearest? a.negative (a.magnitude.1 * b.magnitude.2) (a.magnitude.2 * b.magnitude.1)

/-- The largest power of ten that is a double. -/
def topPower : Nat := 308

/-- A power of ten, rounded.  Powers past the largest do not occur. -/
def powerOfTen (k : Nat) : Double := (nearest? false (Nat.pow 10 k) 1).getD one

/-- Scales a double by a power of ten: one product or quotient with a rounded
    power.  A power too small to be a double is divided by in portions, of
    which `portions` bounds the number; a few exhaust every double. -/
def scaled? (d : Double) (exponent : Int) : Nat → Option Double
  | 0 => some { d with rank := 0, rank_lt := by decide }
  | portions + 1 =>
    if exponent.natAbs ≤ topPower then
      if 0 ≤ exponent then d.times? (powerOfTen exponent.toNat)
      else d.over? (powerOfTen exponent.natAbs)
    else if d.rank = 0 then some d
    else if 0 ≤ exponent then none
    else do
      let d ← d.over? (powerOfTen topPower)
      scaled? d (exponent + topPower) portions

end Double

/-! ### Numbers of event data -/

def digitsValue (ds : List Char) : Nat :=
  ds.foldl (fun n d => 10 * n + (d.toNat - '0'.toNat)) 0

/-- Appends digits to a significand for as long as it fits a 64-bit word, and
    tells how many were left over. -/
def appendDigits (significand : Nat) : List Char → Nat × Nat
  | [] => (significand, 0)
  | d :: ds =>
    let next := 10 * significand + (d.toNat - '0'.toNat)
    if next < UInt64.size then appendDigits next ds else (significand, ds.length + 1)

/-- The double for the digits before and after a point and an exponent, unless
    it is too large.  The digits that fit a 64-bit word are rounded to a double
    first, and the double is then scaled; digits that do not fit only count as
    places.  So a long number can differ in its last bit from the double
    nearest to it. -/
def doubleOfDigits? (negative : Bool) (whole fraction : List Char) (exponent : Int) :
    Option Double := do
  let (significand, places) := appendDigits 0 whole
  let (significand, unused) := appendDigits significand fraction
  let d ← Double.nearest? negative significand 1
  d.scaled? (exponent + places - (fraction.length - unused : Nat)) 4

end MeetingRoom.Decimal
