import Mathlib.Algebra.Order.Field.Power
import Mathlib.Data.Nat.Log
import Mathlib.Tactic.FieldSimp
import Mathlib.Tactic.Linarith
import Mathlib.Tactic.NormNum
import Mathlib.Tactic.Positivity
import Mathlib.Tactic.Ring

/-!
# Rounding to the nearest number

Arithmetic on binary64 is exact arithmetic followed by rounding. The rational numbers that a float
can stand for are the integers of at most 53 bits times a power of two from `2 ^ (-1074)` on. The
sum and the quotient of two floats, and the float of a natural number, are the nearest of these to
the exact value, whatever its size; what is too great for a float is dealt with when it is packed.
-/

namespace FeatureFlags.Binary64

open Float.Model Float.Model.UnpackedFloat

/-! ### Remainders -/

/-- What a mantissa and the two bits behind it tell about an exact value. -/
def Represents (em : ExtendedMantissa) (x : ℚ) : Prop :=
  match em.roundBit, em.stickyBit with
  | false, false => x = em.mantissa
  | false, true => em.mantissa < x ∧ x < em.mantissa + 1 / 2
  | true, false => x = em.mantissa + 1 / 2
  | true, true => em.mantissa + 1 / 2 < x ∧ x < em.mantissa + 1

variable {em : ExtendedMantissa} {x : ℚ}

lemma represents_exact (m : ℕ) : Represents (.ofMantissaAndAccuracy m .exact) m := rfl

/-- The accuracy of a division is told by its remainder. -/
lemma represents_quotient (n : ℕ) {d : ℕ} (hd : 0 < d) :
    Represents (.ofMantissaAndAccuracy (n / d) (accuracyOfFraction (n % d) d)) (n / d) := by
  have hpos : (0 : ℚ) < d := by exact_mod_cast hd
  have hsplit : (n : ℚ) / d = (n / d : ℕ) + (n % d : ℕ) / d := by
    field_simp
    exact_mod_cast (Nat.div_add_mod n d).symm
  have hlt : ((n % d : ℕ) : ℚ) < d := by exact_mod_cast Nat.mod_lt n hd
  rw [hsplit]
  generalize n / d = q at *
  generalize n % d = r at *
  by_cases hr : r = 0
  · simp [accuracyOfFraction, hr, ExtendedMantissa.ofMantissaAndAccuracy, Represents]
  · have hrpos : (0 : ℚ) < r := by exact_mod_cast Nat.pos_of_ne_zero hr
    have hone : (r : ℚ) / d < 1 := (div_lt_one hpos).2 hlt
    have hfrac : (0 : ℚ) < r / d := div_pos hrpos hpos
    simp only [accuracyOfFraction, if_neg hr]
    cases hcompare : compare (2 * r) d with
    | lt =>
      have hhalf : (2 * r : ℚ) < d := by exact_mod_cast Nat.compare_eq_lt.1 hcompare
      have : (r : ℚ) / d < 1 / 2 := by rw [div_lt_div_iff₀ hpos two_pos]; linarith
      show (q : ℚ) < _ ∧ _ < (q : ℚ) + 1 / 2
      constructor <;> linarith
    | eq =>
      have hhalf : (2 * r : ℚ) = d := by exact_mod_cast Nat.compare_eq_eq.1 hcompare
      have : (r : ℚ) / d = 1 / 2 := by rw [div_eq_div_iff hpos.ne' two_ne_zero]; linarith
      exact congrArg _ this
    | gt =>
      have hhalf : (d : ℚ) < 2 * r := by exact_mod_cast Nat.compare_eq_gt.1 hcompare
      have : 1 / 2 < (r : ℚ) / d := by rw [div_lt_div_iff₀ two_pos hpos]; linarith
      show (q : ℚ) + 1 / 2 < _ ∧ _ < (q : ℚ) + 1
      constructor <;> linarith

lemma Represents.mantissa_le (h : Represents em x) : em.mantissa ≤ x := by
  obtain ⟨m, r, s⟩ := em
  cases r <;> cases s <;> simp only [Represents] at h ⊢ <;> linarith

lemma Represents.lt_succ (h : Represents em x) : x < em.mantissa + 1 := by
  obtain ⟨m, r, s⟩ := em
  cases r <;> cases s <;> simp only [Represents] at h ⊢ <;> linarith

lemma Represents.shiftRightOne (h : Represents em x) : Represents em.shiftRightOne (x / 2) := by
  obtain ⟨m, r, s⟩ := em
  obtain ⟨k, rfl | rfl⟩ : ∃ k, m = 2 * k ∨ m = 2 * k + 1 := ⟨m / 2, by omega⟩
  · have hdiv : 2 * k / 2 = k := by omega
    have hmod : 2 * k % 2 = 0 := by omega
    cases r <;> cases s <;>
      simp [Represents, ExtendedMantissa.shiftRightOne, hdiv, hmod] at h ⊢ <;> grind
  · have hdiv : (2 * k + 1) / 2 = k := by omega
    have hmod : (2 * k + 1) % 2 = 1 := by omega
    cases r <;> cases s <;>
      simp [Represents, ExtendedMantissa.shiftRightOne, hdiv, hmod] at h ⊢ <;> grind

lemma Represents.shiftRight (h : Represents em x) (n : ℕ) :
    Represents (em >>> n) (x / 2 ^ n) := by
  induction n with
  | zero =>
    show Represents em (x / 2 ^ 0)
    simpa using h
  | succ n ih =>
    rw [pow_succ, ← div_div]
    exact ih.shiftRightOne

/-- The rounded mantissa is one of the two integers around the value, and not the farther one. -/
lemma Represents.roundedMantissa_cases (h : Represents em x) :
    em.roundedMantissa = em.mantissa ∧ x ≤ em.mantissa + 1 / 2 ∨
    em.roundedMantissa = em.mantissa + 1 ∧ em.mantissa + 1 / 2 ≤ x := by
  obtain ⟨m, r, s⟩ := em
  cases r <;> cases s <;>
    simp only [Represents, ExtendedMantissa.roundedMantissa, ExtendedMantissa.accuracy,
      Accuracy.roundToNearestEven] at h ⊢
  case true.false =>
    obtain hmod | hmod := Nat.mod_two_eq_zero_or_one m
    · exact .inl ⟨by omega, by linarith⟩
    · exact .inr ⟨by omega, by linarith⟩
  case true.true => exact .inr ⟨trivial, by linarith⟩
  all_goals exact .inl ⟨trivial, by linarith⟩

/-- The rounded mantissa is the nearest integer. -/
lemma Represents.roundedMantissa_nearest (h : Represents em x) (k : ℤ) :
    |x - em.roundedMantissa| ≤ |x - k| := by
  have hle := h.mantissa_le
  have hlt := h.lt_succ
  have hside : (k : ℚ) ≤ em.mantissa ∨ (em.mantissa : ℚ) + 1 ≤ k := by
    obtain hk | hk := le_or_gt k em.mantissa
    · exact .inl (by exact_mod_cast hk)
    · exact .inr (by exact_mod_cast hk)
  obtain ⟨hround, hhalf⟩ | ⟨hround, hhalf⟩ := h.roundedMantissa_cases <;> rw [hround]
  · rw [abs_of_nonneg (by linarith)]
    obtain hk | hk := hside
    · exact (by linarith : x - em.mantissa ≤ x - k).trans (le_abs_self _)
    · exact (by linarith : x - em.mantissa ≤ -(x - k)).trans (neg_le_abs _)
  · push_cast
    rw [abs_of_nonpos (by linarith)]
    obtain hk | hk := hside
    · exact (by linarith : -(x - (em.mantissa + 1)) ≤ x - k).trans (le_abs_self _)
    · exact (by linarith : -(x - (em.mantissa + 1)) ≤ -(x - k)).trans (neg_le_abs _)

/-! ### Numbers -/

/-- Is it a number of the format, its greatest exponent left aside? -/
def IsNumber (w : ℚ) : Prop :=
  ∃ k e : ℤ, |k| ≤ 2 ^ 53 ∧ -1074 ≤ e ∧ w = k * 2 ^ e

lemma IsNumber.neg {w : ℚ} (h : IsNumber w) : IsNumber (-w) := by
  obtain ⟨k, e, hk, he, rfl⟩ := h
  exact ⟨-k, e, by rwa [abs_neg], he, by push_cast; ring⟩

lemma isNumber_zero : IsNumber 0 := ⟨0, 0, by norm_num, by norm_num, by norm_num⟩

lemma isNumber_of_mantissa {m : ℕ} {e : ℤ} (hm : m ≤ 2 ^ 53) (he : -1074 ≤ e) :
    IsNumber (m * 2 ^ e) :=
  ⟨m, e, by rw [Nat.abs_cast]; exact_mod_cast hm, he, by norm_cast⟩

/-- The number is as near to an exact value as any other number. -/
structure IsNearest (x v : ℚ) : Prop where
  isNumber : IsNumber v
  nearest : ∀ {w}, IsNumber w → |x - v| ≤ |x - w|

namespace IsNearest

variable {x y u v w : ℚ}

lemma neg (h : IsNearest x v) : IsNearest (-x) (-v) where
  isNumber := h.isNumber.neg
  nearest {w} hw := by
    calc |-x - -v| = |x - v| := by rw [neg_sub_neg, abs_sub_comm]
      _ ≤ |x - -w| := h.nearest hw.neg
      _ = |-x - w| := by rw [← abs_neg, neg_sub, neg_sub_left, ← neg_add', add_comm]

/-- Rounding does not go past a number. -/
lemma le (h : IsNearest x v) (hw : IsNumber w) (hwx : w ≤ x) : w ≤ v := by
  by_contra! hvw
  have : |x - v| ≤ |x - w| := h.nearest hw
  rw [abs_of_nonneg (by linarith), abs_of_nonneg (by linarith)] at this
  linarith

lemma ge (h : IsNearest x v) (hw : IsNumber w) (hxw : x ≤ w) : v ≤ w := by
  have := h.neg.le hw.neg (neg_le_neg hxw)
  linarith

/-- Rounding keeps the order. -/
lemma mono (hu : IsNearest x u) (hv : IsNearest y v) (hxy : x < y) : u ≤ v := by
  by_contra! hvu
  have hx : (x - u) ^ 2 ≤ (x - v) ^ 2 := sq_le_sq.2 (hu.nearest hv.isNumber)
  have hy : (y - v) ^ 2 ≤ (y - u) ^ 2 := sq_le_sq.2 (hv.nearest hu.isNumber)
  nlinarith

end IsNearest

/-! ### Unpacked numbers -/

/-- A value with a sign. -/
def signed : Sign → ℚ → ℚ
  | .positive, x => x
  | .negative, x => -x

/-- The first power of two that is out of range. -/
def limit : ℚ := 2 ^ (1024 : ℤ)

/-- The value of an unpacked number. An infinity stands at the limit. -/
def value : UnpackedFloat → ℚ
  | .infinity s => signed s limit
  | .notANumber => 0
  | .zero _ => 0
  | .finite s m e _ => signed s (m * 2 ^ e)

lemma value_infinity (s : Sign) : value (.infinity s) = signed s limit := rfl

lemma value_zero (s : Sign) : value (.zero s) = 0 := rfl

lemma value_finite (s : Sign) {m : ℕ} (e : ℤ) (h : 0 < m) :
    value (.finite s m e h) = signed s (m * 2 ^ e) := rfl

/-- The mantissa has all its bits unless the exponent is the least one. -/
def Canonical : UnpackedFloat → Prop
  | .finite _ m e _ => m < 2 ^ 53 ∧ -1074 ≤ e ∧ (2 ^ 52 ≤ m ∨ e = -1074)
  | .zero _ => True
  | _ => False

/-- The unpacked number is what an exact value is rounded to. -/
structure Rounds (x : ℚ) (u : UnpackedFloat) : Prop where
  canonical : Canonical u
  nearest : IsNearest x (value u)

lemma signed_mul (s : Sign) (x y : ℚ) : signed s x * y = signed s (x * y) := by
  cases s
  · exact neg_mul x y
  · rfl

lemma IsNearest.signed {x v : ℚ} (h : IsNearest x v) (s : Sign) :
    IsNearest (signed s x) (signed s v) := by
  cases s
  · exact h.neg
  · exact h

lemma targetExponent_eq (t : ℤ) : Format.binary64.targetExponent t = max (t - 53) (-1074) := rfl

/-- Rounding to the target exponent. -/
lemma roundedMantissa_isNearest {em : ExtendedMantissa} {y : ℚ} {t : ℤ} (h : Represents em y)
    (ht : -1074 ≤ t) (hy : y < 2 ^ 53) (hnormal : t ≠ -1074 → 2 ^ 52 ≤ y) :
    em.roundedMantissa ≤ 2 ^ 53 ∧ (t ≠ -1074 → 2 ^ 52 ≤ em.roundedMantissa) ∧
    IsNearest (y * 2 ^ t) (em.roundedMantissa * 2 ^ t) := by
  have hpos : (0 : ℚ) < 2 ^ t := by positivity
  have hlt : em.mantissa < 2 ^ 53 := by exact_mod_cast h.mantissa_le.trans_lt hy
  have hle : em.roundedMantissa ≤ 2 ^ 53 := by
    obtain ⟨hround, -⟩ | ⟨hround, -⟩ := h.roundedMantissa_cases <;> omega
  have hge : t ≠ -1074 → 2 ^ 52 ≤ em.roundedMantissa := by
    intro hne
    have : (2 ^ 52 : ℚ) < (em.mantissa + 1 : ℕ) := by
      push_cast
      exact (hnormal hne).trans_lt h.lt_succ
    have : 2 ^ 52 < em.mantissa + 1 := by exact_mod_cast this
    obtain ⟨hround, -⟩ | ⟨hround, -⟩ := h.roundedMantissa_cases <;> omega
  refine ⟨hle, hge, isNumber_of_mantissa hle ht, ?_⟩
  rintro w ⟨k, e, hk, he, rfl⟩
  -- at least as near in units of the target exponent
  have hscale (z : ℚ) (hz : |y - em.roundedMantissa| ≤ |y - z|) :
      |y * 2 ^ t - em.roundedMantissa * 2 ^ t| ≤ |y * 2 ^ t - z * 2 ^ t| := by
    rw [← sub_mul, ← sub_mul, abs_mul, abs_mul]
    gcongr
  obtain ⟨n, rfl⟩ | hlow : (∃ n : ℕ, e = t + n) ∨ e < t := by
    obtain hte | hte := le_or_gt t e
    · exact .inl ⟨(e - t).toNat, by omega⟩
    · exact .inr hte
  · have hsplit : (k : ℚ) * 2 ^ (t + n) = (k * 2 ^ n : ℤ) * 2 ^ t := by
      rw [zpow_add₀ two_ne_zero, zpow_natCast]
      push_cast
      ring
    rw [hsplit]
    exact hscale _ (h.roundedMantissa_nearest _)
  · -- a number with a lesser exponent lies below all mantissas with all their bits
    have hy52 : (2 ^ 52 : ℚ) ≤ y := hnormal (by omega)
    have hk' : (k : ℚ) ≤ 2 ^ 53 := by exact_mod_cast (le_abs_self k).trans hk
    have hz : (k : ℚ) * 2 ^ (e - t) ≤ 2 ^ 52 :=
      calc (k : ℚ) * 2 ^ (e - t) ≤ 2 ^ 53 * 2 ^ (e - t) := by gcongr
        _ ≤ 2 ^ 53 * 2 ^ (-1 : ℤ) := by gcongr <;> [norm_num; omega]
        _ = 2 ^ 52 := by norm_num
    have hsplit : (k : ℚ) * 2 ^ e = (k * 2 ^ (e - t)) * 2 ^ t := by
      rw [mul_assoc, ← zpow_add₀ two_ne_zero, sub_add_cancel]
    rw [hsplit]
    refine hscale _ ?_
    calc |y - em.roundedMantissa| ≤ |y - (2 ^ 52 : ℤ)| := h.roundedMantissa_nearest _
      _ = y - 2 ^ 52 := by push_cast; exact abs_of_nonneg (by linarith)
      _ ≤ y - k * 2 ^ (e - t) := by linarith
      _ ≤ |y - k * 2 ^ (e - t)| := le_abs_self _

/-- The unpacked number of a mantissa and an exponent. -/
def ofMantissa (s : Sign) (m : ℕ) (e : ℤ) : UnpackedFloat :=
  if h : m = 0 then .zero s else .finite s m e (Nat.pos_of_ne_zero h)

lemma ofMantissa_spec (s : Sign) {m : ℕ} {e : ℤ} (hm : m < 2 ^ 53) (he : -1074 ≤ e)
    (hnormal : 2 ^ 52 ≤ m ∨ e = -1074) :
    Canonical (ofMantissa s m e) ∧ value (ofMantissa s m e) = signed s (m * 2 ^ e) := by
  obtain rfl | hne := eq_or_ne m 0
  · have hzero : ofMantissa s 0 e = .zero s := rfl
    rw [hzero, Nat.cast_zero, zero_mul]
    exact ⟨trivial, by cases s <;> simp [value_zero, signed]⟩
  · have hfinite : ofMantissa s m e = .finite s m e (Nat.pos_of_ne_zero hne) := dif_neg hne
    rw [hfinite]
    exact ⟨⟨hm, he, hnormal⟩, rfl⟩

/-- Shifts a mantissa that rounding may have given one bit too many. -/
def carry (s : Sign) (m : ℕ) (e : ℤ) : UnpackedFloat :=
  let shifted := shiftToTargetExponent .binary64 m e .exact
  ofMantissa s shifted.1.mantissa shifted.2

lemma roundWithAccuracy_eq (s : Sign) (m : ℕ) (e : ℤ) (acc : Accuracy) :
    roundWithAccuracy .binary64 s m e acc =
      let shifted := shiftToTargetExponent .binary64 m e acc
      carry s shifted.1.roundedMantissa shifted.2 := rfl

lemma carry_spec (s : Sign) {m : ℕ} {e : ℤ} (hm : m ≤ 2 ^ 53) (he : -1074 ≤ e)
    (hnormal : e ≠ -1074 → 2 ^ 52 ≤ m) :
    Canonical (carry s m e) ∧ value (carry s m e) = signed s (m * 2 ^ e) := by
  obtain hlt | rfl := hm.lt_or_eq
  · have hstay : shiftToTargetExponent .binary64 m e .exact = (⟨m, false, false⟩, e) := by
      have hlog : m.log2 ≤ 52 := by
        obtain rfl | hne := eq_or_ne m 0
        · decide
        · exact Nat.le_of_lt_succ ((Nat.log2_lt hne).2 hlt)
      have hshift : (max (m.log2 + 1 + e - 53) (-1074) - e).toNat = 0 := by omega
      simp only [shiftToTargetExponent, shiftToExponent, targetExponent_eq, totalExponent, hshift]
      exact congrArg _ (add_zero e)
    rw [carry, hstay]
    exact ofMantissa_spec s hlt he (by tauto)
  · have hshift : shiftToTargetExponent .binary64 (2 ^ 53) e .exact =
        (⟨2 ^ 52, false, false⟩, e + 1) := by
      have hlog : (2 ^ 53 : ℕ).log2 = 53 := by decide
      have hshift : (max (((53 : ℕ) : ℤ) + 1 + e - 53) (-1074) - e).toNat = 1 := by omega
      simp only [shiftToTargetExponent, shiftToExponent, targetExponent_eq, totalExponent, hlog,
        hshift]
      rfl
    obtain ⟨hcanonical, hvalue⟩ :=
      ofMantissa_spec s (m := 2 ^ 52) (e := e + 1) (by norm_num) (by omega) (.inl le_rfl)
    rw [carry, hshift]
    refine ⟨hcanonical, hvalue.trans (congrArg (signed s) ?_)⟩
    rw [zpow_add_one₀ two_ne_zero]
    push_cast
    ring

/-- A mantissa whose exponent is at most the target exponent is rounded to the nearest number. -/
theorem roundWithAccuracy_rounds (s : Sign) {m : ℕ} {e : ℤ} {acc : Accuracy} {x : ℚ}
    (h : Represents (.ofMantissaAndAccuracy m acc) x)
    (he : e ≤ Format.binary64.targetExponent (totalExponent m e)) :
    Rounds (signed s (x * 2 ^ e)) (roundWithAccuracy .binary64 s m e acc) := by
  have hm : (ExtendedMantissa.ofMantissaAndAccuracy m acc).mantissa = m := by
    cases acc with
    | exact => rfl
    | inexact side => cases side <;> rfl
  have hle : (m : ℚ) ≤ x := hm ▸ h.mantissa_le
  have hlt : x < m + 1 := hm ▸ h.lt_succ
  rw [targetExponent_eq, totalExponent] at he
  obtain ⟨n, hn⟩ : ∃ n : ℕ, max (m.log2 + 1 + e - 53) (-1074) = e + n :=
    ⟨(max (m.log2 + 1 + e - 53) (-1074) - e).toNat, by omega⟩
  have hshift : shiftToTargetExponent .binary64 m e acc =
      (ExtendedMantissa.ofMantissaAndAccuracy m acc >>> n, e + n) := by
    have : (e + n - e).toNat = n := by omega
    simp only [shiftToTargetExponent, shiftToExponent, targetExponent_eq, totalExponent, hn, this]
  have hx : x * 2 ^ e = x / 2 ^ n * 2 ^ (e + n) := by
    rw [zpow_add₀ two_ne_zero, zpow_natCast]
    field_simp
  have hpos : (0 : ℚ) < 2 ^ n := by positivity
  -- the shift leaves 53 bits, all of them in use unless the exponent is the least
  have hbelow : x / 2 ^ n < 2 ^ 53 := by
    rw [div_lt_iff₀ hpos, ← pow_add]
    calc x < (m + 1 : ℕ) := by exact_mod_cast hlt
      _ ≤ 2 ^ (m.log2 + 1) := by exact_mod_cast Nat.lt_log2_self
      _ ≤ 2 ^ (53 + n) := pow_le_pow_right₀ (by norm_num) (by omega)
  have habove : e + n ≠ -1074 → 2 ^ 52 ≤ x / 2 ^ n := by
    intro hne
    rw [le_div_iff₀ hpos, ← pow_add]
    have hlog : 52 + n = m.log2 := by omega
    have hne : m ≠ 0 := by
      rintro rfl
      simp at hlog
    calc (2 : ℚ) ^ (52 + n) = 2 ^ m.log2 := by rw [hlog]
      _ ≤ m := by exact_mod_cast Nat.log2_self_le hne
      _ ≤ x := hle
  obtain ⟨hround, hnormal, hnearest⟩ :=
    roundedMantissa_isNearest (h.shiftRight n) (by omega) hbelow habove
  obtain ⟨hcanonical, hvalue⟩ := carry_spec s hround (by omega) hnormal
  rw [roundWithAccuracy_eq, hshift, hx]
  exact ⟨hcanonical, hvalue ▸ hnearest.signed s⟩

/-! ### Operations -/

lemma log2_shiftLeft {m : ℕ} (hm : m ≠ 0) (n : ℕ) : (m <<< n).log2 = m.log2 + n := by
  rw [Nat.log2_eq_iff (by simpa using hm), Nat.shiftLeft_eq, add_right_comm, pow_add, pow_add]
  exact ⟨Nat.mul_le_mul_right _ (Nat.log2_self_le hm),
    Nat.mul_lt_mul_of_pos_right Nat.lt_log2_self (by positivity)⟩

lemma round_rounds (s : Sign) {m : ℕ} (hm : m ≠ 0) (e : ℤ) :
    Rounds (signed s (m * 2 ^ e)) (UnpackedFloat.round .binary64 s m e) := by
  obtain ⟨n, hn⟩ : ∃ n, (e - Format.binary64.targetExponent (totalExponent m e)).toNat = n :=
    ⟨_, rfl⟩
  have hround : UnpackedFloat.round .binary64 s m e =
      roundWithAccuracy .binary64 s (m <<< n) (e - n) .exact := by
    simp only [UnpackedFloat.round, decreaseExponent, hn]
  have hvalue : (m : ℚ) * 2 ^ e = (m <<< n : ℕ) * 2 ^ (e - n) := by
    rw [Nat.shiftLeft_eq, zpow_sub₀ two_ne_zero, zpow_natCast]
    push_cast
    field_simp
  rw [hround, hvalue]
  refine roundWithAccuracy_rounds s (represents_exact _) ?_
  simp only [totalExponent, log2_shiftLeft hm, targetExponent_eq] at hn ⊢
  omega

lemma rounds_zero (s : Sign) : Rounds 0 (.zero s) where
  canonical := trivial
  nearest := ⟨isNumber_zero, fun {w} _ => by simp [value_zero]⟩

lemma normalize_rounds (k : ℤ) (e : ℤ) (s : Sign) :
    Rounds (k * 2 ^ e) (UnpackedFloat.normalize .binary64 k e s) := by
  unfold UnpackedFloat.normalize
  cases hcompare : compare k 0 with
  | lt =>
    have hk : k < 0 := compare_lt_iff_lt.1 hcompare
    have hcast : (k : ℚ) * 2 ^ e = signed .negative ((-k).toNat * 2 ^ e) := by
      have : ((-k).toNat : ℚ) = -k := by
        have : ((-k).toNat : ℤ) = -k := Int.toNat_of_nonneg (by omega)
        exact_mod_cast this
      simp [signed, this]
    rw [hcast]
    exact round_rounds _ (by omega) e
  | eq =>
    obtain rfl : k = 0 := compare_eq_iff_eq.1 hcompare
    simpa using rounds_zero s
  | gt =>
    have hk : 0 < k := compare_gt_iff_gt.1 hcompare
    have hcast : (k : ℚ) * 2 ^ e = signed .positive (k.toNat * 2 ^ e) := by
      have : ((k.toNat : ℤ) : ℚ) = k := by rw [Int.toNat_of_nonneg hk.le]
      simp only [signed]
      rw [← this]
      norm_cast
    rw [hcast]
    exact round_rounds _ (by omega) e

/-- A natural number is converted to the nearest number. -/
theorem ofNat_rounds (n : ℕ) : Rounds n (UnpackedFloat.ofNat .binary64 n) := by
  have h := normalize_rounds n 0 .positive
  rw [zpow_zero, mul_one, Int.cast_natCast] at h
  exact h

lemma decreaseExponent_fst (m : ℕ) {e t : ℤ} (h : t ≤ e) :
    ((decreaseExponent m e t).1 : ℚ) * 2 ^ t = m * 2 ^ e := by
  obtain ⟨n, rfl⟩ : ∃ n : ℕ, e = t + n := ⟨(e - t).toNat, by omega⟩
  have : (t + n - t).toNat = n := by omega
  simp only [decreaseExponent, this, Nat.shiftLeft_eq, zpow_add₀ (two_ne_zero (α := ℚ)),
    zpow_natCast]
  push_cast
  ring

lemma cast_apply (s : Sign) (k : ℤ) : ((s.apply k : ℤ) : ℚ) = signed s k := by
  cases s <;> simp [Sign.apply, signed]

/-- A sum is rounded to the nearest number. -/
theorem add_rounds (s₁ s₂ : Sign) {m₁ m₂ : ℕ} (e₁ e₂ : ℤ) (h₁ : 0 < m₁) (h₂ : 0 < m₂) :
    Rounds (value (.finite s₁ m₁ e₁ h₁) + value (.finite s₂ m₂ e₂ h₂))
      (UnpackedFloat.add .binary64 (.finite s₁ m₁ e₁ h₁) (.finite s₂ m₂ e₂ h₂)) := by
  have hsum : value (.finite s₁ m₁ e₁ h₁) + value (.finite s₂ m₂ e₂ h₂) =
      ((s₁.apply (decreaseExponent m₁ e₁ (min e₁ e₂)).1 +
        s₂.apply (decreaseExponent m₂ e₂ (min e₁ e₂)).1 : ℤ) : ℚ) * 2 ^ min e₁ e₂ := by
    rw [Int.cast_add, cast_apply, cast_apply, add_mul, signed_mul, signed_mul, Int.cast_natCast,
      Int.cast_natCast]
    rw [decreaseExponent_fst m₁ (min_le_left ..), decreaseExponent_fst m₂ (min_le_right ..)]
    rfl
  rw [hsum]
  exact normalize_rounds _ _ _

lemma signed_div (s₁ s₂ : Sign) (x y : ℚ) :
    signed s₁ x / signed s₂ y = signed (s₁ / s₂) (x / y) := by
  cases s₁ <;> cases s₂
  · exact neg_div_neg_eq x y
  · exact neg_div y x
  · exact div_neg x
  · rfl

/-- The quotient that is computed has all the bits that rounding keeps. -/
lemma le_targetExponent_quotient {m₁ m₂ : ℕ} (h₁ : 0 < m₁) (h₂ : 0 < m₂) {e : ℤ} {n : ℕ}
    (h : e ≤ Format.binary64.targetExponent (m₁.log2 + n + e - m₂.log2)) :
    e ≤ Format.binary64.targetExponent (totalExponent (m₁ <<< n / m₂) e) := by
  rw [targetExponent_eq] at h ⊢
  obtain hlow | hhigh := le_or_gt e (-1074)
  · omega
  have hlog : m₁.log2 + n ≤ (m₁ <<< n / m₂).log2 + 1 + m₂.log2 := by
    have hlt : m₁ <<< n < 2 ^ ((m₁ <<< n / m₂).log2 + 1 + m₂.log2 + 1) :=
      calc m₁ <<< n < (m₁ <<< n / m₂ + 1) * m₂ := Nat.lt_mul_of_div_lt (Nat.lt_succ_self _) h₂
        _ ≤ 2 ^ ((m₁ <<< n / m₂).log2 + 1) * 2 ^ (m₂.log2 + 1) :=
          Nat.mul_le_mul Nat.lt_log2_self Nat.lt_log2_self.le
        _ = _ := by rw [← pow_add, ← add_assoc]
    have hne : m₁ <<< n ≠ 0 := by simpa using h₁.ne'
    have := (Nat.log2_lt hne).2 hlt
    rw [log2_shiftLeft h₁.ne'] at this
    omega
  rw [totalExponent]
  omega

/-- A quotient is rounded to the nearest number. -/
theorem div_rounds (s₁ s₂ : Sign) {m₁ m₂ : ℕ} (e₁ e₂ : ℤ) (h₁ : 0 < m₁) (h₂ : 0 < m₂) :
    Rounds (value (.finite s₁ m₁ e₁ h₁) / value (.finite s₂ m₂ e₂ h₂))
      (UnpackedFloat.div .binary64 (.finite s₁ m₁ e₁ h₁) (.finite s₂ m₂ e₂ h₂)) := by
  obtain ⟨n, e, hn, he, hdiv⟩ : ∃ n : ℕ, ∃ e : ℤ, e₁ - e₂ = e + n ∧
      e ≤ Format.binary64.targetExponent (totalExponent m₁ e₁ - totalExponent m₂ e₂) ∧
      divCore .binary64 m₁ e₁ m₂ e₂ =
        (m₁ <<< n / m₂, e, accuracyOfFraction (m₁ <<< n % m₂) m₂) :=
    ⟨_, _, by omega, min_le_right .., rfl⟩
  have hquotient : value (.finite s₁ m₁ e₁ h₁) / value (.finite s₂ m₂ e₂ h₂) =
      signed (s₁ / s₂) ((m₁ <<< n : ℕ) / m₂ * 2 ^ e) := by
    have hne : (m₂ : ℚ) ≠ 0 := by exact_mod_cast h₂.ne'
    have hsplit : (2 : ℚ) ^ e₁ = 2 ^ n * 2 ^ e * 2 ^ e₂ := by
      rw [← zpow_natCast, ← zpow_add₀ two_ne_zero, ← zpow_add₀ two_ne_zero]
      congr 1
      omega
    rw [value_finite, value_finite, signed_div, Nat.shiftLeft_eq, hsplit]
    push_cast
    congr 1
    field_simp
  have hround : UnpackedFloat.div .binary64 (.finite s₁ m₁ e₁ h₁) (.finite s₂ m₂ e₂ h₂) =
      roundWithAccuracy .binary64 (s₁ / s₂) (m₁ <<< n / m₂) e
        (accuracyOfFraction (m₁ <<< n % m₂) m₂) := by
    dsimp only [UnpackedFloat.div]
    rw [hdiv]
  rw [hquotient, hround]
  refine roundWithAccuracy_rounds _ (represents_quotient _ h₂)
    (le_targetExponent_quotient h₁ h₂ ?_)
  convert he using 2
  simp only [totalExponent]
  omega

end FeatureFlags.Binary64
