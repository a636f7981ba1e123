import FeatureFlags.Decimal.Reading
import FeatureFlags.Json.Basic

/-!
# Numerals

A numeral of JSON is an integer when it has neither fraction nor exponent, is not `-0` and fits 64
bits, signed or unsigned. Any other is a binary64 number: its digits are rounded first, as far as
they fit 64 bits, and then scaled by a power of ten, which rounds once more. For the numerals that
people write this is the nearest number; a numeral of seventeen digits may miss it by one place. A
numeral that is too large is refused.
-/

namespace FeatureFlags.Json

/-! ### Digits -/

/-- The bound of the significand. -/
def significandBound : Nat := Nat.pow 2 64

/-- A significand that is scaled by `10 ^ exponent`. -/
structure Significand where
  value : Nat
  exponent : Int
  /-- Whether digits have been left out for want of room. -/
  isFull : Bool
  deriving DecidableEq, Repr

namespace Significand

/-- No digits. -/
def zero : Significand := ⟨0, 0, false⟩

/-- The value with one more digit. -/
def appended (s : Significand) (digit : Char) : Nat :=
  10 * s.value + Decimal.ofDigits [digit]

/-- Take in a digit before the point. One that is left out still counts as a place. -/
def takeWhole (s : Significand) (digit : Char) : Significand :=
  if s.isFull ∨ significandBound ≤ s.appended digit then ⟨s.value, s.exponent + 1, true⟩
  else ⟨s.appended digit, s.exponent, false⟩

/-- Take in a digit after the point. -/
def takeFraction (s : Significand) (digit : Char) : Significand :=
  if s.isFull ∨ significandBound ≤ s.appended digit then { s with isFull := true }
  else ⟨s.appended digit, s.exponent - 1, false⟩

/-- The significand of the digits before and after a point. Between the two there may be room
again. -/
def ofDigits (whole fraction : List Char) : Significand :=
  fraction.foldl takeFraction { whole.foldl takeWhole zero with isFull := false }

/-- The exponents of powers of ten that a number is scaled by in one step. -/
def greatestStep : Nat := 308

/-- A power of ten. -/
def powerOfTen (n : Nat) : Float := Float.ofScientific 1 false n

/-- Divide by a power of ten, in steps; after three of them nothing is left of any number. -/
def divide (x : Float) (places : Nat) : Float :=
  let step (x : Float) : Float := x / powerOfTen greatestStep
  if places ≤ greatestStep then x / powerOfTen places
  else if places ≤ 2 * greatestStep then step x / powerOfTen (places - greatestStep)
  else if places ≤ 3 * greatestStep then
    step (step x) / powerOfTen (places - 2 * greatestStep)
  else 0.0

/-- Multiply by a power of ten, if the result is finite. -/
def multiply? (x : Float) (places : Nat) : Option Float :=
  if places ≤ greatestStep then
    let y := x * powerOfTen places
    if y.isFinite then some y else none
  else if x == 0.0 then some x
  else none

/-- The number that a significand and its scale make. -/
def toFloat? (s : Significand) : Option Float :=
  let x := s.value.toUInt64.toFloat
  if s.exponent < 0 then some (divide x s.exponent.natAbs) else multiply? x s.exponent.natAbs

end Significand

/-! ### Numerals -/

/-- The least integer held exactly. -/
def minInt : Int := -(Nat.pow 2 63)

/-- The greatest integer held exactly. -/
def maxInt : Int := Nat.pow 2 64 - 1

/-- The integer of a numeral without fraction and exponent, if it is held exactly. -/
def integer? (negative : Bool) (n : Nat) : Option Int :=
  let value : Int := if negative then -(n : Int) else n
  if (negative ∧ n = 0) ∨ value < minInt ∨ maxInt < value then none else some value

/-- A fraction: a point and at least one digit. -/
def readFraction? : List Char → Option (List Char × List Char)
  | '.' :: rest =>
    let (ds, rest) := Decimal.takeDigits rest
    if ds.isEmpty then none else some (ds, rest)
  | rest => some ([], rest)

/-- An exponent, if there is one. -/
def readExponent? : List Char → Option (Option Int × List Char)
  | [] => some (none, [])
  | c :: rest =>
    if c = 'e' ∨ c = 'E' then
      let (negative, rest) := Decimal.takeSign rest
      let (ds, rest) := Decimal.takeDigits rest
      if ds.isEmpty then none
      else
        let n : Int := Decimal.ofDigits ds
        some (some (if negative then -n else n), rest)
    else some (none, c :: rest)

/-- The number of a numeral in its parts. -/
def numberOf? (negative : Bool) (whole fraction : List Char) (exponent : Option Int) :
    Option Number := do
  let plain := if fraction.isEmpty ∧ exponent.isNone then
      integer? negative (Decimal.ofDigits whole)
    else none
  match plain with
  | some n => pure (.int n)
  | none =>
    let s := Significand.ofDigits whole fraction
    let x ← { s with exponent := s.exponent + exponent.getD 0 }.toFloat?
    pure (.float (if negative then -x else x))

/-- A numeral at the front of the text. -/
def readNumber? (cs : List Char) : Option (Number × List Char) := do
  let (negative, cs) := match cs with
    | '-' :: rest => (true, rest)
    | rest => (false, rest)
  let (whole, rest) := Decimal.takeDigits cs
  if whole.isEmpty ∨ (whole.head? = some '0' ∧ 1 < whole.length) then none
  else
    let (fraction, rest) ← readFraction? rest
    let (exponent, rest) ← readExponent? rest
    pure (← numberOf? negative whole fraction exponent, rest)

end FeatureFlags.Json
