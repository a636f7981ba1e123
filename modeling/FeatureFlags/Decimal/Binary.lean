/-!
# Binary64 numbers as integers times powers of two

A finite binary64 number is `± mantissa · 2 ^ exponent` with natural `mantissa`. Everything this
library has to know exactly about such a number (its shortest decimal, its nearest integer) is
computed from the three parts by integer arithmetic.
-/

namespace FeatureFlags.Decimal

/-- The number `± mantissa · 2 ^ exponent`. -/
structure Binary where
  negative : Bool
  mantissa : Nat
  exponent : Int
  deriving Repr, DecidableEq

namespace Binary

/-- The exponent of the subnormal numbers, the least there is. -/
def minExponent : Int := -1074

/-- The mantissa of the powers of two among the normal numbers. -/
def leadingMantissa : Nat := Nat.pow 2 52

/-- The parts of the number with these bits; infinities and NaN have none. -/
def ofBits? (bits : Nat) : Option Binary :=
  let negative := bits / Nat.pow 2 63 % 2 == 1
  let exponent : Nat := bits / Nat.pow 2 52 % Nat.pow 2 11
  let fraction := bits % Nat.pow 2 52
  if exponent = 2047 then none
  else if exponent = 0 then some ⟨negative, fraction, minExponent⟩
  else some ⟨negative, leadingMantissa + fraction, minExponent + exponent - 1⟩

/-- The parts of a finite number. -/
def ofFloat? (x : Float) : Option Binary := ofBits? x.toBits.toNat

/-- The nearest integer; a half goes away from zero. -/
def round (b : Binary) : Int :=
  let magnitude : Nat :=
    if 0 ≤ b.exponent then b.mantissa * Nat.pow 2 b.exponent.toNat
    else
      let unit := Nat.pow 2 (-b.exponent).toNat
      (2 * b.mantissa + unit) / (2 * unit)
  if b.negative then -(magnitude : Int) else magnitude

@[simp] theorem round_zero (negative : Bool) (exponent : Int) :
    round ⟨negative, 0, exponent⟩ = 0 := by
  have h : Nat.pow 2 (-exponent).toNat / (2 * Nat.pow 2 (-exponent).toNat) = 0 :=
    Nat.div_eq_of_lt (by have := Nat.two_pow_pos (-exponent).toNat; simp only [Nat.pow_eq]; omega)
  simp [round, h, -Nat.pow_eq]

end Binary

end FeatureFlags.Decimal
