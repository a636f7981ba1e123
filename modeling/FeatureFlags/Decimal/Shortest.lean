import FeatureFlags.Decimal.Binary

/-!
# The shortest decimal of a binary64 number

Every real number of an interval around a binary64 number rounds to it. The shortest decimal is
the one with the fewest digits in that interval, and of several of that length the nearest to the
number itself, or the even one of two that are equally near. For each number of digits only the
number's two neighbours on the decimal grid can qualify, so they are all that is tried.

All quantities are natural numbers in units of `2 ^ -1076 · 10 ^ -400`, small enough for every
number, half gap and grid point to be whole.
-/

namespace FeatureFlags.Decimal

/-- The positive decimal `digits · 10 ^ exponent`. -/
structure Digits where
  digits : Nat
  exponent : Int
  deriving Repr, DecidableEq

namespace Digits

/-- How many digits a natural number has. -/
def count (n : Nat) : Nat := (Nat.toDigits 10 n).length

/-- Drop trailing zeros, at most `fuel` of them. -/
def trim : Nat → Digits → Digits
  | 0, d => d
  | fuel + 1, d =>
    if d.digits % 10 = 0 ∧ d.digits ≠ 0 then trim fuel ⟨d.digits / 10, d.exponent + 1⟩ else d

/-- The exponent of the first digit. -/
def magnitude (d : Digits) : Int := d.exponent + count d.digits - 1

end Digits

/-- Decimal places of the unit. -/
def unitPlaces : Nat := 400

/-- A positive number with the interval that rounds to it, in units. -/
structure Interval where
  low : Nat
  value : Nat
  high : Nat
  closed : Bool

namespace Interval

/-- The interval of `mantissa · 2 ^ exponent`: half a gap to either side, where the gap below a
power of two is half as wide. Its ends round to even mantissas only. -/
def ofBinary (b : Binary) : Interval :=
  let quarter := Nat.pow 2 (b.exponent - Binary.minExponent).toNat * Nat.pow 10 unitPlaces
  let value := 4 * b.mantissa * quarter
  let atPowerOfTwo := b.mantissa = Binary.leadingMantissa ∧ b.exponent ≠ Binary.minExponent
  let below := if atPowerOfTwo then quarter else 2 * quarter
  ⟨value - below, value, value + 2 * quarter, b.mantissa % 2 = 0⟩

/-- Does this point round to the number? -/
def contains (i : Interval) (x : Nat) : Bool :=
  if i.closed then i.low ≤ x && x ≤ i.high else i.low < x && x < i.high

/-- The grid step `10 ^ k`, for the exponents that occur. -/
def step (k : Int) : Nat := Nat.pow 10 (k + unitPlaces).toNat * Nat.pow 2 1076

/-- The nearest point of the grid of step `10 ^ k` that rounds to the number, if one does. Of two
that are equally near it is the even one. -/
def onGrid? (i : Interval) (k : Int) : Option Nat :=
  let lower := i.value / step k
  let upper := lower + 1
  match i.contains (lower * step k), i.contains (upper * step k) with
  | true, true =>
    let below := i.value - lower * step k
    let above := upper * step k - i.value
    if below < above ∨ (below = above ∧ lower % 2 = 0) then some lower else some upper
  | true, false => some lower
  | false, true => some upper
  | false, false => none

/-- Try ever finer grids, `fuel` of them, starting with step `10 ^ k`. -/
def search (i : Interval) : Nat → Int → Digits
  | 0, k => ⟨i.value / step k, k⟩
  | fuel + 1, k =>
    match i.onGrid? k with
    | some n => Digits.trim 20 ⟨n, k⟩
    | none => search i fuel (k - 1)

end Interval

/-- The fewest digits that read back as this number. Seventeen always suffice. -/
def Binary.shortest (b : Binary) : Digits :=
  if b.mantissa = 0 then ⟨0, 0⟩
  else
    let i := Interval.ofBinary b
    let leading : Int := Digits.count (i.value / Nat.pow 2 1076) - 1 - unitPlaces
    i.search 17 leading

end FeatureFlags.Decimal
