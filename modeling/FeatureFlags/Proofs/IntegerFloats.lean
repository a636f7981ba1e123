import FeatureFlags.Proofs.FloatOrder

/-!
# The float of an integer

An integer of any size and sign is converted to the nearest float, and if it is the value of a float
it is converted to that. Small integers are converted through a machine word and multiplied by one,
large ones are shifted and multiplied by one, so that both come down to the rounding of a product.
-/

namespace FeatureFlags.Binary64

open Float.Model (Format UnpackedFloat)
open Float.Model.UnpackedFloat

/-! ### Products -/

lemma signed_mul_signed (s₁ s₂ : Sign) (x y : ℚ) :
    signed s₁ x * signed s₂ y = signed (s₁ * s₂) (x * y) := by
  cases s₁ <;> cases s₂
  · exact neg_mul_neg x y
  · exact neg_mul x y
  · exact mul_neg x y
  · rfl

/-- A product is rounded to the nearest number, if it has all the bits that rounding keeps. -/
lemma mul_rounds (s₁ s₂ : Sign) {m₁ m₂ : ℕ} (e₁ e₂ : ℤ) (h₁ : 0 < m₁) (h₂ : 0 < m₂)
    (hbits : 2 ^ 52 ≤ m₁ * m₂) :
    Rounds (value (.finite s₁ m₁ e₁ h₁) * value (.finite s₂ m₂ e₂ h₂))
      (UnpackedFloat.mul .binary64 (.finite s₁ m₁ e₁ h₁) (.finite s₂ m₂ e₂ h₂)) := by
  have hvalue : value (.finite s₁ m₁ e₁ h₁) * value (.finite s₂ m₂ e₂ h₂) =
      signed (s₁ * s₂) ((m₁ * m₂ : ℕ) * 2 ^ (e₁ + e₂)) := by
    rw [value_finite, value_finite, signed_mul_signed, zpow_add₀ two_ne_zero]
    push_cast
    congr 1
    ring
  have hlog : 52 ≤ (m₁ * m₂).log2 := (Nat.le_log2 (by positivity)).2 hbits
  rw [hvalue]
  refine roundWithAccuracy_rounds _ (represents_exact _) ?_
  simp only [targetExponent_eq, Float.Model.totalExponent]
  omega

variable {x : Float} {v w : ℚ} {n : ℕ} {k : ℤ}

/-- Multiplying by one rounds to the number itself. -/
lemma isRounded_mul_one (hx : IsPositive x) : IsRounded (rat x) (x * 1.0) := by
  obtain ⟨m, e, h, hunpack⟩ := hx
  have hone : (1.0 : Float).toModel.unpack = .finite .positive (2 ^ 52) (-52) (by decide) := rfl
  have hpower : 0 < 2 ^ 52 := by decide
  have hmul := (mul_rounds .positive .positive e (-52) h hpower
    (Nat.le_mul_of_pos_left _ h)).isRounded
  have hfactor : value (.finite .positive (2 ^ 52) (-52) (by decide)) = 1 := by
    rw [← hone]
    exact rat_one
  rw [hfactor, mul_one, ← hunpack, ← hone] at hmul
  exact hmul

/-! ### Signs -/

lemma clamp_neg (v : ℚ) : clamp (-v) = -clamp v := by
  have hlimit := limit_pos
  simp only [clamp, min_def, max_def]
  split_ifs <;> linarith

lemma signed_neg (s : Sign) (v : ℚ) : signed (-s) v = -signed s v := by
  cases s with
  | positive => rfl
  | negative => exact (neg_neg v).symm

lemma value_neg (u : UnpackedFloat) : value u.neg = -value u := by
  cases u with
  | infinity s | finite s => exact signed_neg s _
  | notANumber | zero => exact neg_zero.symm

lemma Fits.neg {u : UnpackedFloat} (h : Fits u) : Fits u.neg := by
  cases u with
  | infinity s | finite s | notANumber | zero s => exact h

lemma unpack_neg (x : Float) : (-x).toModel.unpack = x.toModel.unpack.neg := by
  have hfits : Fits x.toModel.unpack := fits_unpack _
  exact unpack_pack hfits.neg

lemma IsNumeric.neg (h : IsNumeric x) : IsNumeric (-x) := by
  intro hneg
  rw [unpack_neg] at hneg
  apply h
  cases hx : x.toModel.unpack with
  | notANumber => rfl
  | infinity s | finite s | zero s =>
    rw [hx] at hneg
    cases hneg

/-- The opposite number is what the opposite value is rounded to. -/
lemma IsRounded.neg (h : IsRounded w x) : IsRounded (-w) (-x) := by
  obtain ⟨hnumeric, v, hnearest, hrat⟩ := h
  refine ⟨hnumeric.neg, -v, hnearest.neg, ?_⟩
  rw [clamp_neg, ← hrat, rat, unpack_neg, value_neg]
  rfl

/-! ### Integers -/

/-- A number of the format is rounded to itself. -/
lemma IsRounded.rat_eq (h : IsRounded w x) (hw : IsNumber w) (hlow : -limit ≤ w)
    (hhigh : w ≤ limit) : rat x = w :=
  le_antisymm (h.ge hw hlow le_rfl) (h.le hw hhigh le_rfl)

lemma isPositive_of_rat_pos (hpos : 0 < rat x) (hlt : rat x < limit) : IsPositive x := by
  have hlimit := limit_pos
  rw [rat] at hpos hlt
  rw [IsPositive]
  -- all other forms have a value that is not above zero, or the limit
  cases hx : x.toModel.unpack with
  | infinity s =>
    rw [hx, value_infinity] at hpos hlt
    cases s with
    | positive => exact absurd hlt (lt_irrefl limit)
    | negative =>
      rw [signed] at hpos
      linarith
  | notANumber | zero =>
    rw [hx] at hpos
    exact absurd hpos (lt_irrefl 0)
  | finite s m e h =>
    rw [hx, value_finite] at hpos
    have hmagnitude := magnitude_pos (e := e) h
    cases s with
    | positive => exact ⟨m, e, h, rfl⟩
    | negative =>
      rw [signed] at hpos
      linarith

lemma natCast_lt_limit {n : ℕ} (h : n ≤ 2 ^ 64) : (n : ℚ) < limit := by
  calc (n : ℚ) ≤ 2 ^ (64 : ℤ) := by exact_mod_cast h
    _ < limit := zpow_lt_zpow_right₀ (by norm_num) (by norm_num)

/-- A small natural number is converted through a machine word. -/
lemma isRounded_ofNat_of_lt (hn : 0 < n) (hsmall : n < 2 ^ 53) : IsRounded n (Float.ofNat n) := by
  have heq : Float.ofNat n = n.toUInt64.toFloat * 1.0 := dif_pos ⟨hsmall, by decide⟩
  -- the word holds the number, so converting it rounds nothing
  have hword : n.toUInt64.toNat = n := Nat.mod_eq_of_lt (by omega)
  have hrounded := isRounded_toFloat n.toUInt64
  have hnumber : IsNumber n := ⟨n, 0, by rw [Nat.abs_cast]; exact_mod_cast hsmall.le, by decide,
    by norm_num⟩
  have hlimit := natCast_lt_limit (n := n) (by omega)
  have hcast : (0 : ℚ) < n := by exact_mod_cast hn
  rw [hword] at hrounded
  have hrat : rat n.toUInt64.toFloat = n := hrounded.rat_eq hnumber (by linarith) hlimit.le
  rw [heq]
  nth_rewrite 1 [← hrat]
  exact isRounded_mul_one
    (isPositive_of_rat_pos (hcast.trans_eq hrat.symm) (hrat.trans_lt hlimit))

/-- A large natural number is shifted, which leaves bits enough to round. -/
lemma isRounded_ofNat_of_le (hlarge : 2 ^ 53 ≤ n) : IsRounded n (Float.ofNat n) := by
  have hn : n ≠ 0 := by omega
  have hshift : 0 < n <<< 53 := by
    rw [Nat.shiftLeft_eq]
    positivity
  have heq : Float.ofNat n = .ofModel (.pack (UnpackedFloat.ofScientific .binary64 n 0)) :=
    dif_neg (by omega)
  have hscientific : UnpackedFloat.ofScientific .binary64 n 0 =
      UnpackedFloat.mul .binary64 (.finite .positive (n <<< 53) (-53) hshift)
        (.finite .positive 1 0 one_pos) := by
    have hlow : ¬(0 : ℤ) < -(2 ^ Format.binary64.exponentBits + (n.log2 : ℤ)) := by
      have hbits : (0 : ℤ) < 2 ^ Format.binary64.exponentBits := by decide
      omega
    rw [UnpackedFloat.ofScientific, dif_neg hn, if_neg (by decide), if_neg hlow, if_pos le_rfl]
    rfl
  have hbits : 2 ^ 52 ≤ n <<< 53 * 1 := by
    rw [Nat.shiftLeft_eq]
    omega
  have hvalue : value (.finite .positive (n <<< 53) (-53) hshift) *
      value (.finite .positive 1 0 one_pos) = n := by
    rw [value_finite, value_finite, signed, signed, Nat.shiftLeft_eq]
    push_cast
    rw [zpow_neg]
    norm_num
    ring
  have hrounds := mul_rounds .positive .positive (-53) 0 hshift one_pos hbits
  rw [hvalue, ← hscientific] at hrounds
  rw [heq]
  exact hrounds.isRounded

lemma isRounded_ofNat (n : ℕ) : IsRounded n (Float.ofNat n) := by
  rcases Nat.eq_zero_or_pos n with rfl | hn
  · exact_mod_cast (rounds_zero .positive).isRounded
  · rcases lt_or_ge n (2 ^ 53) with hsmall | hlarge
    · exact isRounded_ofNat_of_lt hn hsmall
    · exact isRounded_ofNat_of_le hlarge

/-- An integer is converted to the nearest number. -/
theorem isRounded_ofInt (k : ℤ) : IsRounded k (Float.ofInt k) := by
  cases k with
  | ofNat n => exact_mod_cast isRounded_ofNat n
  | negSucc n =>
    have h := (isRounded_ofNat n.succ).neg
    rw [Int.cast_negSucc]
    exact_mod_cast h

/-! ### Integers in range -/

lemma isNumber_of_natAbs_le (h : k.natAbs ≤ 2 ^ 53) : IsNumber k :=
  ⟨k, 0, by rw [Int.abs_eq_natAbs]; exact_mod_cast h, by decide, by simp⟩

/-- What is not out of range is rounded to the nearest number, infinity aside. -/
lemma IsRounded.isNearest (h : IsRounded w x) (hv : IsNumber v) (hin : v ≤ limit) (hlow : -v ≤ w)
    (hhigh : w ≤ v) : IsNearest w (rat x) := by
  obtain ⟨-, u, hnearest, hrat⟩ := h
  have hle := hnearest.le hv.neg hlow
  have hge := hnearest.ge hv hhigh
  rw [hrat, clamp_of_abs_le (by linarith) (by linarith)]
  exact hnearest

lemma isNearest_ofInt (h : k.natAbs ≤ 2 ^ 64) : IsNearest k (rat (Float.ofInt k)) := by
  have hnumber : IsNumber (2 ^ 64) := ⟨1, 64, by norm_num, by norm_num, by norm_num⟩
  have hlimit := (natCast_lt_limit (n := 2 ^ 64) le_rfl).le
  have hlow : -2 ^ 64 ≤ k := by omega
  have hhigh : k ≤ 2 ^ 64 := by omega
  refine (isRounded_ofInt k).isNearest hnumber (by exact_mod_cast hlimit) ?_ ?_
  · exact_mod_cast hlow
  · exact_mod_cast hhigh

/-- An integer that is the value of a float is converted exactly. -/
lemma rat_ofInt (h : k.natAbs ≤ 2 ^ 64) (hk : IsNumber k) : rat (Float.ofInt k) = k :=
  le_antisymm ((isNearest_ofInt h).ge hk le_rfl) ((isNearest_ofInt h).le hk le_rfl)

end FeatureFlags.Binary64
