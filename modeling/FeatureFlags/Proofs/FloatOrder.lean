import FeatureFlags.Proofs.NearestNumber
import Mathlib.Order.Compare

/-!
# The order of floats

Floats that are numbers are ordered like the rational numbers they stand for, where infinity stands
for the least power of two that is too great for a float. A conversion, a sum or a quotient is the
float nearest to the exact value, and rounding keeps the order; so does dividing by one number, and
adding what is not below zero lowers no sum.
-/

namespace FeatureFlags.Binary64

open Float.Model (Format UnpackedFloat)
open Float.Model.UnpackedFloat

/-! ### Packing -/

/-- Does the unpacked number have a place among the packed ones? -/
def Fits : UnpackedFloat → Prop
  | .finite s m e h => Canonical (.finite s m e h) ∧ e ≤ 971
  | _ => True

lemma toNat_one_append (m : BitVec 52) : (1#1 ++ m).toNat = 2 ^ 52 + m.toNat := by
  rw [BitVec.toNat_append, Nat.shiftLeft_eq, Nat.or_comm]
  change m.toNat ||| 2 ^ 52 = _
  rw [Nat.or_two_pow_eq_add_of_lt m.isLt, Nat.add_comm]

/-- The unpacked number of three fields. -/
def assemble (s : Sign) (e : BitVec 11) (m : BitVec 52) : UnpackedFloat :=
  if e = -1#11 then
    if m = 0#52 then .infinity s else .notANumber
  else if e = 0#11 then
    if h : m = 0#52 then .zero s
    else .finite s m.toNat (e.toNat - (1023 + 52) + 1)
      (Nat.pos_of_ne_zero fun h' => h (BitVec.eq_of_toNat_eq h'))
  else
    .finite s (1#1 ++ m).toNat (e.toNat - (1023 + 52))
      (toNat_one_append m ▸ Nat.add_pos_left (by decide) _)

lemma unpack_eq (b : BitVec 64) :
    unpack .binary64 b =
      assemble (.ofBitVec (@unpackSign .binary64 b)) (@unpackExponent .binary64 b)
        (@unpackMantissa .binary64 b) := rfl

lemma unpackSign_packComponents (s : Sign) (e : BitVec 11) (m : BitVec 52) :
    unpackSign (packComponents Format.binary64 s e m) = s.toBitVec := by
  change (s.toBitVec ++ e ++ m).extractLsb' 63 1 = s.toBitVec
  rw [BitVec.extractLsb'_append_eq_of_le (by decide),
    BitVec.extractLsb'_append_eq_of_le (by decide)]
  cases s <;> rfl

lemma unpack_packComponents (s : Sign) (e : BitVec 11) (m : BitVec 52) :
    unpack .binary64 (packComponents .binary64 s e m) = assemble s e m := by
  have hsign : Sign.ofBitVec s.toBitVec = s := by cases s <;> rfl
  rw [unpack_eq, unpackSign_packComponents, unpackExponent_packComponents,
    unpackMantissa_packComponents, hsign]

/-- What unpacking gives fits. -/
lemma fits_unpack (b : BitVec 64) : Fits (unpack .binary64 b) := by
  rw [unpack_eq]
  generalize Sign.ofBitVec _ = s
  generalize @unpackExponent .binary64 b = e
  generalize @unpackMantissa .binary64 b = m
  change BitVec 11 at e
  change BitVec 52 at m
  have hm : m.toNat < 2 ^ 52 := m.isLt
  have he : e.toNat < 2048 := e.isLt
  rw [assemble]
  -- an exponent of ones is for what is no number, one of zeros for numbers without a leading one
  by_cases hones : e = -1#11
  · rw [if_pos hones]
    by_cases hempty : m = 0#52
    · rw [if_pos hempty]
      trivial
    · rw [if_neg hempty]
      trivial
  have : e.toNat ≠ 2047 := fun h => hones (BitVec.eq_of_toNat_eq h)
  rw [if_neg hones]
  by_cases hzero : e = 0#11
  · have : e.toNat = 0 := congrArg BitVec.toNat hzero
    rw [if_pos hzero]
    by_cases hempty : m = 0#52
    · rw [dif_pos hempty]
      trivial
    · rw [dif_neg hempty]
      exact ⟨⟨by omega, by omega, .inr (by omega)⟩, by omega⟩
  · have : e.toNat ≠ 0 := fun h => hzero (BitVec.eq_of_toNat_eq h)
    have hlead := toNat_one_append m
    rw [if_neg hzero]
    exact ⟨⟨by omega, by omega, .inl (by omega)⟩, by omega⟩

lemma pack_finite (s : Sign) {m : ℕ} (e : ℤ) (hm : 0 < m) :
    pack .binary64 (.finite s m e hm) =
      if 2048 ≤ (e + 1023 + 52).toNat + 1 then packedInfinity .binary64 s
      else if m.log2 + 1 = 53 then
        packComponents .binary64 s (.ofNat 11 (e + 1023 + 52).toNat) (.ofNat 52 m)
      else packComponents .binary64 s 0#11 (.ofNat 52 m) := rfl

/-- A number that does not fit becomes an infinity. -/
lemma unpack_pack_overflow (s : Sign) {m : ℕ} {e : ℤ} (hm : 0 < m) (he : 971 < e) :
    unpack .binary64 (pack .binary64 (.finite s m e hm)) = .infinity s := by
  rw [pack_finite, if_pos (by omega)]
  exact unpack_packComponents s (-1#11) 0#52

/-- The number that is packed is the number that is unpacked. -/
lemma unpack_pack {u : UnpackedFloat} (h : Fits u) : unpack .binary64 (pack .binary64 u) = u := by
  match u, h with
  | .infinity s, _ => exact unpack_packComponents s (-1#11) 0#52
  | .notANumber, _ => exact unpack_packComponents .positive (-1#11) (1#52 <<< 51)
  | .zero s, _ => exact unpack_packComponents s 0#11 0#52
  | .finite s m e hm, ⟨⟨hlt, hle, hnormal⟩, hfit⟩ =>
    have hbits : m.log2 + 1 = 53 ↔ 2 ^ 52 ≤ m := by
      rw [← Nat.le_log2 hm.ne']
      have := (Nat.log2_lt hm.ne').2 hlt
      omega
    rw [pack_finite, if_neg (by omega), ite_congr (propext hbits) (fun _ => rfl) fun _ => rfl]
    -- the leading one of a full mantissa is not stored; a mantissa without it is stored as it is
    by_cases hlead : 2 ^ 52 ≤ m
    · have hexponent : (BitVec.ofNat 11 (e + 1023 + 52).toNat).toNat = (e + 1023 + 52).toNat :=
        Nat.mod_eq_of_lt (by omega)
      have hones : BitVec.ofNat 11 (e + 1023 + 52).toNat ≠ -1#11 := fun h => by
        have : (e + 1023 + 52).toNat = 2047 := hexponent.symm.trans (congrArg BitVec.toNat h)
        omega
      have hzero : BitVec.ofNat 11 (e + 1023 + 52).toNat ≠ 0#11 := fun h => by
        have : (e + 1023 + 52).toNat = 0 := hexponent.symm.trans (congrArg BitVec.toNat h)
        omega
      have hmantissa : (1#1 ++ BitVec.ofNat 52 m).toNat = m := by
        rw [toNat_one_append, BitVec.toNat_ofNat]
        omega
      rw [if_pos hlead, unpack_packComponents, assemble, if_neg hones, if_neg hzero]
      congr 1
      omega
    · have hmantissa : (BitVec.ofNat 52 m).toNat = m := Nat.mod_eq_of_lt (by omega)
      have hzero : BitVec.ofNat 52 m ≠ 0#52 := fun h => by
        have : m = 0 := hmantissa.symm.trans (congrArg BitVec.toNat h)
        omega
      rw [if_neg hlead, unpack_packComponents, assemble, if_neg (by decide), if_pos rfl,
        dif_neg hzero]
      congr 1
      rw [BitVec.toNat_zero]
      omega

/-! ### Order -/

variable {s s₁ s₂ : Sign} {m m₁ m₂ : ℕ} {e e₁ e₂ : ℤ} {h : 0 < m} {h₁ : 0 < m₁} {h₂ : 0 < m₂}

/-- A greater exponent makes a greater number. -/
lemma value_lt_of_exponent_lt (hc₁ : Canonical (.finite s₁ m₁ e₁ h₁))
    (hc₂ : Canonical (.finite s₂ m₂ e₂ h₂)) (hlt : e₁ < e₂) :
    (m₁ : ℚ) * 2 ^ e₁ < m₂ * 2 ^ e₂ := by
  obtain ⟨hm₁, he₁, -⟩ := hc₁
  obtain ⟨-, -, hnormal⟩ := hc₂
  have hm₂ : 2 ^ 52 ≤ m₂ := hnormal.resolve_right (by omega)
  calc (m₁ : ℚ) * 2 ^ e₁ < 2 ^ 53 * 2 ^ e₁ := by gcongr; exact_mod_cast hm₁
    _ = 2 ^ 52 * 2 ^ (e₁ + 1) := by rw [zpow_add_one₀ two_ne_zero]; ring
    _ ≤ 2 ^ 52 * 2 ^ e₂ := by gcongr <;> [norm_num; omega]
    _ ≤ m₂ * 2 ^ e₂ := by gcongr; exact_mod_cast hm₂

lemma compare_magnitude (hc₁ : Canonical (.finite s₁ m₁ e₁ h₁))
    (hc₂ : Canonical (.finite s₂ m₂ e₂ h₂)) :
    (compare e₁ e₂).then (compare m₁ m₂) = compare ((m₁ : ℚ) * 2 ^ e₁) (m₂ * 2 ^ e₂) := by
  obtain hlt | rfl | hgt := lt_trichotomy e₁ e₂
  · rw [compare_lt_iff_lt.2 hlt, compare_lt_iff_lt.2 (value_lt_of_exponent_lt hc₁ hc₂ hlt)]
    rfl
  · have hpos : (0 : ℚ) < 2 ^ e₁ := by positivity
    rw [compare_eq_iff_eq.2 rfl, Ordering.eq_then]
    obtain hlt | rfl | hgt := lt_trichotomy m₁ m₂
    · rw [compare_lt_iff_lt.2 hlt, eq_comm, compare_lt_iff_lt]
      gcongr
    · rw [compare_eq_iff_eq.2 rfl, compare_eq_iff_eq.2 rfl]
    · rw [compare_gt_iff_gt.2 hgt, eq_comm, compare_gt_iff_gt]
      gcongr
  · rw [compare_gt_iff_gt.2 hgt, compare_gt_iff_gt.2 (value_lt_of_exponent_lt hc₂ hc₁ hgt)]
    rfl

lemma magnitude_pos (h : 0 < m) : (0 : ℚ) < m * 2 ^ e := by
  have : (0 : ℚ) < m := by exact_mod_cast h
  positivity

lemma compare_neg_neg (x y : ℚ) : compare (-x) (-y) = (compare x y).swap := by
  obtain hlt | rfl | hgt := lt_trichotomy x y
  · rw [compare_lt_iff_lt.2 hlt, compare_gt_iff_gt.2 (neg_lt_neg hlt)]
    rfl
  · rw [compare_eq_iff_eq.2 rfl, compare_eq_iff_eq.2 rfl]
    rfl
  · rw [compare_gt_iff_gt.2 hgt, compare_lt_iff_lt.2 (neg_lt_neg hgt)]
    rfl

lemma limit_pos : 0 < limit := zpow_pos two_pos _

lemma limit_eq : limit = 2 ^ (52 : ℤ) * 2 ^ (972 : ℤ) := by
  rw [← zpow_add₀ two_ne_zero]
  congr 1

lemma magnitude_lt (hf : Fits (.finite s m e h)) : (m : ℚ) * 2 ^ e < limit := by
  obtain ⟨⟨hm, -, -⟩, he⟩ := hf
  calc (m : ℚ) * 2 ^ e < 2 ^ 53 * 2 ^ e := by gcongr; exact_mod_cast hm
    _ = 2 ^ (53 + e) := by rw [zpow_add₀ two_ne_zero]; norm_num
    _ ≤ limit := zpow_le_zpow_right₀ (by norm_num) (by omega)

lemma limit_le_magnitude (hm : 2 ^ 52 ≤ m) (he : 972 ≤ e) : limit ≤ m * 2 ^ e :=
  calc limit = 2 ^ (52 : ℤ) * 2 ^ (972 : ℤ) := limit_eq
    _ ≤ 2 ^ (52 : ℤ) * 2 ^ e := by gcongr; norm_num
    _ ≤ m * 2 ^ e := by gcongr; exact_mod_cast hm

/-- Unpacked numbers are ordered by their values. -/
lemma compare_eq {u v : UnpackedFloat} (hu : Fits u) (hv : Fits v) (hu' : u ≠ .notANumber)
    (hv' : v ≠ .notANumber) : u.compare v = some (compare (value u) (value v)) := by
  have hlt {x y : ℚ} (h : x < y) : some Ordering.lt = some (compare x y) :=
    congrArg some (compare_lt_iff_lt.2 h).symm
  have hgt {x y : ℚ} (h : y < x) : some Ordering.gt = some (compare x y) :=
    congrArg some (compare_gt_iff_gt.2 h).symm
  have heq {x : ℚ} : some Ordering.eq = some (compare x x) :=
    congrArg some (compare_eq_iff_eq.2 rfl).symm
  have hlimit := limit_pos
  -- an infinity has the limit as its value, which no finite number reaches
  match u, v with
  | .notANumber, _ => exact absurd rfl hu'
  | _, .notANumber => exact absurd rfl hv'
  | .infinity s₁, .infinity s₂ =>
    cases s₁ <;> cases s₂
    · exact heq
    · exact hlt (by dsimp only [value_infinity, signed]; linarith)
    · exact hgt (by dsimp only [value_infinity, signed]; linarith)
    · exact heq
  | .infinity s₁, .zero s₂ =>
    cases s₁
    · exact hlt (by dsimp only [value_infinity, value_zero, signed]; linarith)
    · exact hgt (by dsimp only [value_infinity, value_zero, signed]; linarith)
  | .zero s₁, .infinity s₂ =>
    cases s₂
    · exact hgt (by dsimp only [value_infinity, value_zero, signed]; linarith)
    · exact hlt (by dsimp only [value_infinity, value_zero, signed]; linarith)
  | .infinity s₁, .finite s₂ m₂ e₂ h₂ =>
    have := magnitude_lt hv
    have := magnitude_pos (e := e₂) h₂
    cases s₁
    · exact hlt (by cases s₂ <;> dsimp only [value_infinity, value_finite, signed] <;> linarith)
    · exact hgt (by cases s₂ <;> dsimp only [value_infinity, value_finite, signed] <;> linarith)
  | .finite s₁ m₁ e₁ h₁, .infinity s₂ =>
    have := magnitude_lt hu
    have := magnitude_pos (e := e₁) h₁
    cases s₂
    · exact hgt (by cases s₁ <;> dsimp only [value_infinity, value_finite, signed] <;> linarith)
    · exact hlt (by cases s₁ <;> dsimp only [value_infinity, value_finite, signed] <;> linarith)
  | .zero s₁, .zero s₂ => exact heq
  | .zero s₁, .finite s₂ m₂ e₂ h₂ =>
    have := magnitude_pos (e := e₂) h₂
    cases s₂
    · exact hgt (by dsimp only [value_zero, value_finite, signed]; linarith)
    · exact hlt (by dsimp only [value_zero, value_finite, signed]; linarith)
  | .finite s₁ m₁ e₁ h₁, .zero s₂ =>
    have := magnitude_pos (e := e₁) h₁
    cases s₁
    · exact hlt (by dsimp only [value_zero, value_finite, signed]; linarith)
    · exact hgt (by dsimp only [value_zero, value_finite, signed]; linarith)
  | .finite s₁ m₁ e₁ h₁, .finite s₂ m₂ e₂ h₂ =>
    have hpos₁ := magnitude_pos (e := e₁) h₁
    have hpos₂ := magnitude_pos (e := e₂) h₂
    have hcompare := compare_magnitude hu.1 hv.1
    cases s₁ <;> cases s₂
    · exact congrArg some ((congrArg Ordering.swap hcompare).trans (compare_neg_neg _ _).symm)
    · exact hlt (by dsimp only [value_finite, signed]; linarith)
    · exact hgt (by dsimp only [value_finite, signed]; linarith)
    · exact congrArg some hcompare

/-! ### Floats -/

/-- The value of a number. An infinity stands at the limit. -/
def rat (x : Float) : ℚ := value x.toModel.unpack

/-- Is it other than not-a-number? -/
def IsNumeric (x : Float) : Prop := x.toModel.unpack ≠ .notANumber

variable {x y z : Float}

lemma compare_of_isNumeric (hx : IsNumeric x) (hy : IsNumeric y) :
    x.toModel.unpack.compare y.toModel.unpack = some (compare (rat x) (rat y)) :=
  compare_eq (fits_unpack _) (fits_unpack _) hx hy

lemma lt_def : x < y ↔ x.toModel.unpack.compare y.toModel.unpack = some .lt :=
  decide_eq_true_iff.trans beq_iff_eq

lemma le_def : x ≤ y ↔ ∃ o, x.toModel.unpack.compare y.toModel.unpack = some o ∧ o.isLE = true :=
  decide_eq_true_iff.trans (Option.any_eq_true ..)

/-- Numbers are ordered by their values. -/
theorem lt_iff (hx : IsNumeric x) (hy : IsNumeric y) : x < y ↔ rat x < rat y := by
  rw [lt_def, compare_of_isNumeric hx hy, Option.some_inj, compare_lt_iff_lt]

theorem le_iff (hx : IsNumeric x) (hy : IsNumeric y) : x ≤ y ↔ rat x ≤ rat y := by
  rw [le_def, compare_of_isNumeric hx hy]
  simp [Ordering.isLE_iff_ne_gt, compare_le_iff_le]

lemma isNumeric_of_compare {u v : UnpackedFloat} {o : Ordering} (h : u.compare v = some o) :
    u ≠ .notANumber ∧ v ≠ .notANumber := by
  constructor
  · rintro rfl
    cases h
  · rintro rfl
    cases u <;> cases h

/-- Only numbers are less than others. -/
lemma isNumeric_of_lt (h : x < y) : IsNumeric x ∧ IsNumeric y :=
  isNumeric_of_compare (lt_def.1 h)

lemma isNumeric_of_le (h : x ≤ y) : IsNumeric x ∧ IsNumeric y := by
  obtain ⟨o, ho, -⟩ := le_def.1 h
  exact isNumeric_of_compare ho

lemma isNumeric_zero : IsNumeric 0.0 := nofun

lemma rat_zero : rat 0.0 = 0 := rfl

lemma isNumeric_one : IsNumeric 1.0 := nofun

lemma rat_one : rat 1.0 = 1 := by
  have hunpack : (1.0 : Float).toModel.unpack = .finite .positive (2 ^ 52) (-52) (by decide) := rfl
  rw [rat, hunpack, value_finite]
  norm_num [signed]

lemma nonneg_iff : 0.0 ≤ x ↔ IsNumeric x ∧ 0 ≤ rat x := by
  constructor
  · intro h
    have hx := (isNumeric_of_le h).2
    exact ⟨hx, (le_iff isNumeric_zero hx).1 h⟩
  · rintro ⟨hx, h⟩
    exact (le_iff isNumeric_zero hx).2 h

protected lemma le_refl (hx : IsNumeric x) : x ≤ x := (le_iff hx hx).2 le_rfl

/-- The order is transitive. -/
protected lemma le_trans (hxy : x ≤ y) (hyz : y ≤ z) : x ≤ z := by
  obtain ⟨hx, hy⟩ := isNumeric_of_le hxy
  have hz := (isNumeric_of_le hyz).2
  rw [le_iff hx hy] at hxy
  rw [le_iff hy hz] at hyz
  exact (le_iff hx hz).2 (hxy.trans hyz)

protected lemma lt_of_lt_of_le (hxy : x < y) (hyz : y ≤ z) : x < z := by
  obtain ⟨hx, hy⟩ := isNumeric_of_lt hxy
  have hz := (isNumeric_of_le hyz).2
  rw [lt_iff hx hy] at hxy
  rw [le_iff hy hz] at hyz
  exact (lt_iff hx hz).2 (hxy.trans_le hyz)

lemma not_le_of_lt (h : x < y) : ¬y ≤ x := by
  obtain ⟨hx, hy⟩ := isNumeric_of_lt h
  rw [le_iff hy hx, not_le]
  exact (lt_iff hx hy).1 h

/-- The order is total, not-a-number aside. -/
lemma not_lt_iff (hx : IsNumeric x) (hy : IsNumeric y) : ¬x < y ↔ y ≤ x := by
  rw [lt_iff hx hy, le_iff hy hx, not_lt]

/-! ### Rounded results -/

/-- The greatest and the least value are those of the infinities. -/
def clamp (v : ℚ) : ℚ := max (-limit) (min v limit)

lemma clamp_mono {v w : ℚ} (h : v ≤ w) : clamp v ≤ clamp w := by
  unfold clamp
  gcongr

lemma clamp_of_abs_le {v : ℚ} (hlow : -limit ≤ v) (hhigh : v ≤ limit) : clamp v = v := by
  rw [clamp, min_eq_left hhigh, max_eq_right hlow]

lemma clamp_signed {v : ℚ} (s : Sign) (h : limit ≤ v) : clamp (signed s v) = signed s limit := by
  have := limit_pos
  cases s
  · rw [signed, signed, clamp, min_eq_left (by linarith), max_eq_left (by linarith)]
  · rw [signed, signed, clamp, min_eq_right h, max_eq_right (by linarith)]

lemma rat_bounds (x : Float) : -limit ≤ rat x ∧ rat x ≤ limit := by
  have hlimit := limit_pos
  have hfits : Fits x.toModel.unpack := fits_unpack _
  unfold rat
  cases hx : x.toModel.unpack with
  | infinity s => cases s <;> dsimp only [value_infinity, signed] <;> constructor <;> linarith
  | notANumber => exact ⟨neg_nonpos.2 hlimit.le, hlimit.le⟩
  | zero s => exact ⟨neg_nonpos.2 hlimit.le, hlimit.le⟩
  | finite s m e h =>
    rw [hx] at hfits
    have := magnitude_lt hfits
    have := magnitude_pos (e := e) h
    cases s <;> dsimp only [value_finite, signed] <;> constructor <;> linarith

/-- Packing keeps a value that is in range. -/
lemma value_unpack_pack {u : UnpackedFloat} (hc : Canonical u) :
    unpack .binary64 (pack .binary64 u) ≠ .notANumber ∧
    value (unpack .binary64 (pack .binary64 u)) = clamp (value u) := by
  have hlimit := limit_pos
  match u, hc with
  | .zero s, _ =>
    rw [unpack_pack (u := .zero s) trivial]
    exact ⟨by simp, (clamp_of_abs_le (by simpa [value_zero] using hlimit.le) hlimit.le).symm⟩
  | .finite s m e h, hc =>
    obtain hfit | hover := le_or_gt e 971
    · have hfits : Fits (.finite s m e h) := ⟨hc, hfit⟩
      have hlt := magnitude_lt hfits
      have hpos := magnitude_pos (e := e) h
      rw [unpack_pack hfits]
      refine ⟨by rintro ⟨⟩, (clamp_of_abs_le ?_ ?_).symm⟩ <;>
        cases s <;> dsimp only [value_finite, signed] <;> linarith
    · have hm : 2 ^ 52 ≤ m := hc.2.2.resolve_right (by omega)
      have hge := limit_le_magnitude hm hover
      rw [unpack_pack_overflow s h hover]
      exact ⟨by cases s <;> rintro ⟨⟩, (clamp_signed s hge).symm⟩

/-- The number is what an exact value is rounded to. -/
structure IsRounded (w : ℚ) (x : Float) : Prop where
  isNumeric : IsNumeric x
  exists_nearest : ∃ v, IsNearest w v ∧ rat x = clamp v

/-- A rounded number is packed. -/
lemma Rounds.isRounded {w : ℚ} {u : UnpackedFloat} (h : Rounds w u) :
    IsRounded w (.ofModel (.pack u)) where
  isNumeric := (value_unpack_pack h.canonical).1
  exists_nearest := ⟨value u, h.nearest, (value_unpack_pack h.canonical).2⟩

namespace IsRounded

variable {v w : ℚ}

/-- Rounding does not go past a number that is in range. -/
lemma le (h : IsRounded w x) (hv : IsNumber v) (hin : v ≤ limit) (hvw : v ≤ w) : v ≤ rat x := by
  obtain ⟨v', hnearest, hrat⟩ := h.exists_nearest
  rw [hrat]
  exact (le_min (hnearest.le hv hvw) hin).trans (le_max_right _ _)

lemma ge (h : IsRounded w x) (hv : IsNumber v) (hin : -limit ≤ v) (hwv : w ≤ v) : rat x ≤ v := by
  obtain ⟨v', hnearest, hrat⟩ := h.exists_nearest
  rw [hrat]
  exact max_le hin ((min_le_left _ _).trans (hnearest.ge hv hwv))

/-- Rounding keeps the order. -/
lemma mono (hx : IsRounded v x) (hy : IsRounded w y) (h : v < w) : rat x ≤ rat y := by
  obtain ⟨v', hv, hx⟩ := hx.exists_nearest
  obtain ⟨w', hw, hy⟩ := hy.exists_nearest
  rw [hx, hy]
  exact clamp_mono (hv.mono hw h)

end IsRounded

/-! ### Arithmetic -/

/-- An integer is converted to the nearest number. -/
lemma isRounded_toFloat (n : UInt64) : IsRounded n.toNat n.toFloat :=
  (ofNat_rounds n.toNat).isRounded

/-- Conversion keeps the order of integers. -/
lemma toFloat_mono {n n' : UInt64} (h : n ≤ n') : rat n.toFloat ≤ rat n'.toFloat := by
  obtain rfl | hlt := UInt64.le_iff_lt_or_eq.1 h |>.symm
  · exact le_rfl
  · exact (isRounded_toFloat n).mono (isRounded_toFloat n') (by exact_mod_cast hlt)

/-- Is it a finite number above zero? -/
def IsPositive (x : Float) : Prop := ∃ m e h, x.toModel.unpack = .finite .positive m e h

/-- The result of a division by a positive number. -/
lemma div_cases {d : Float} (hd : IsPositive d) (hx : IsNumeric x) :
    (IsNumeric (x / d) ∧ rat (x / d) = rat x ∧ ∃ s, rat x = signed s limit) ∨
    IsRounded (rat x / rat d) (x / d) := by
  obtain ⟨m, e, h, hd⟩ := hd
  have hdiv : x / d =
      .ofModel (.pack (UnpackedFloat.div .binary64 x.toModel.unpack d.toModel.unpack)) := rfl
  unfold IsNumeric at hx
  rw [hdiv, rat, rat, rat, hd]
  cases hx' : x.toModel.unpack with
  | notANumber => exact absurd hx' hx
  | infinity s =>
    have hpack : (Float.ofModel (.pack (.infinity s))).toModel.unpack = .infinity s :=
      unpack_pack (u := .infinity s) trivial
    have hinfinity : UnpackedFloat.div .binary64 (.infinity s) (.finite .positive m e h) =
        .infinity s := by
      cases s <;> rfl
    rw [hinfinity]
    exact .inl ⟨by rw [IsNumeric, hpack]; rintro ⟨⟩, by rw [hpack], s, rfl⟩
  | zero s =>
    rw [value_zero, zero_div]
    exact .inr (rounds_zero _).isRounded
  | finite s m' e' h' => exact .inr (div_rounds ..).isRounded

lemma isNumeric_div {d : Float} (hd : IsPositive d) (hx : IsNumeric x) : IsNumeric (x / d) := by
  obtain ⟨hnumeric, -⟩ | hrounded := div_cases hd hx
  · exact hnumeric
  · exact hrounded.isNumeric

lemma IsPositive.rat_pos {d : Float} (hd : IsPositive d) : 0 < rat d := by
  obtain ⟨m, e, h, hd⟩ := hd
  rw [rat, hd]
  exact magnitude_pos h

/-- A quotient in range is rounded to the nearest number. -/
lemma isRounded_div {d : Float} (hd : IsPositive d) (hx : IsNumeric x) (hlow : -limit < rat x)
    (hhigh : rat x < limit) : IsRounded (rat x / rat d) (x / d) := by
  obtain ⟨-, -, s, hs⟩ | hround := div_cases hd hx
  · cases s with
    | negative => exact absurd hs hlow.ne'
    | positive => exact absurd hs hhigh.ne
  · exact hround

/-- Division by a positive number keeps the order. -/
protected theorem div_le_div {d : Float} (hd : IsPositive d) (hxy : x < y) : x / d ≤ y / d := by
  obtain ⟨hx, hy⟩ := isNumeric_of_lt hxy
  have hlt : rat x < rat y := (lt_iff hx hy).1 hxy
  rw [le_iff (isNumeric_div hd hx) (isNumeric_div hd hy)]
  obtain ⟨-, hsame, s, hs⟩ | hroundx := div_cases hd hx
  · cases s with
    | negative =>
      rw [hsame, hs]
      exact (rat_bounds _).1
    | positive =>
      rw [hs] at hlt
      exact absurd (rat_bounds y).2 (not_le.2 hlt)
  obtain ⟨-, hsame, s, hs⟩ | hroundy := div_cases hd hy
  · cases s with
    | negative =>
      rw [hs] at hlt
      exact absurd (rat_bounds x).1 (not_le.2 hlt)
    | positive =>
      rw [hsame, hs]
      exact (rat_bounds _).2
  exact hroundx.mono hroundy (div_lt_div_of_pos_right hlt hd.rat_pos)

/-- A quotient by a positive number is not below zero where the dividend is not. -/
protected theorem div_nonneg {d : Float} (hd : IsPositive d) (hx : 0.0 ≤ x) : 0.0 ≤ x / d := by
  obtain ⟨hnumeric, h0⟩ := nonneg_iff.1 hx
  refine nonneg_iff.2 ⟨isNumeric_div hd hnumeric, ?_⟩
  obtain ⟨-, hsame, -⟩ | hround := div_cases hd hnumeric
  · rwa [hsame]
  · exact hround.le isNumber_zero limit_pos.le (by have := hd.rat_pos; positivity)

lemma IsNumber.signed {w : ℚ} (h : IsNumber w) (s : Sign) : IsNumber (signed s w) := by
  cases s
  · exact h.neg
  · exact h

lemma isNumber_one : IsNumber 1 := ⟨1, 0, by norm_num, by norm_num, by norm_num⟩

lemma isNumber_limit : IsNumber limit :=
  ⟨1, 1024, by norm_num, by norm_num, (one_mul _).symm⟩

lemma isNumber_value {u : UnpackedFloat} (hf : Fits u) : IsNumber (value u) := by
  match u, hf with
  | .notANumber, _ => exact isNumber_zero
  | .zero _, _ => exact isNumber_zero
  | .infinity s, _ => exact isNumber_limit.signed s
  | .finite s m e h, hf => exact (isNumber_of_mantissa hf.1.1.le hf.1.2.1).signed s

lemma isNumber_rat (x : Float) : IsNumber (rat x) := isNumber_value (fits_unpack _)

/-- A number is what its own value is rounded to. -/
lemma rounds_self (hf : Fits (.finite s m e h)) :
    Rounds (value (.finite s m e h)) (.finite s m e h) where
  canonical := hf.1
  nearest := ⟨isNumber_value hf, fun {w} _ => by
    rw [sub_self, abs_zero]
    exact abs_nonneg _⟩

lemma unpack_ofModel_pack {u : UnpackedFloat} (h : Fits u) :
    (Float.ofModel (.pack u)).toModel.unpack = u := unpack_pack h

lemma positive_of_nonneg (h : 0 ≤ value (.infinity s)) : s = .positive := by
  cases s with
  | negative => exact absurd h (not_le.2 (neg_lt_zero.2 limit_pos))
  | positive => rfl

/-- The sum of two numbers that are not below zero. -/
lemma add_cases (hx : IsNumeric x) (hy : IsNumeric y) (hx0 : 0 ≤ rat x) (hy0 : 0 ≤ rat y) :
    (IsNumeric (x + y) ∧ rat (x + y) = limit) ∨ IsRounded (rat x + rat y) (x + y) := by
  have hadd : x + y =
      .ofModel (.pack (UnpackedFloat.add .binary64 x.toModel.unpack y.toModel.unpack)) := rfl
  have hfitx : Fits x.toModel.unpack := fits_unpack _
  have hfity : Fits y.toModel.unpack := fits_unpack _
  unfold IsNumeric rat at *
  rw [hadd]
  generalize x.toModel.unpack = u at *
  generalize y.toModel.unpack = v at *
  have hinfinite {z : Float} (hz : z = .ofModel (.pack (.infinity .positive))) :
      z.toModel.unpack ≠ .notANumber ∧ value z.toModel.unpack = limit := by
    rw [hz, unpack_ofModel_pack (u := .infinity .positive) trivial]
    exact ⟨nofun, rfl⟩
  -- neither is the negative infinity, so infinities do not cancel
  match u, v with
  | .notANumber, _ => exact absurd rfl hx
  | _, .notANumber => exact absurd rfl hy
  | .infinity s₁, .infinity s₂ =>
    obtain rfl := positive_of_nonneg hx0
    obtain rfl := positive_of_nonneg hy0
    exact .inl (hinfinite rfl)
  | .infinity s₁, .zero _ | .infinity s₁, .finite .. =>
    obtain rfl := positive_of_nonneg hx0
    exact .inl (hinfinite rfl)
  | .zero _, .infinity s₂ | .finite .., .infinity s₂ =>
    obtain rfl := positive_of_nonneg hy0
    exact .inl (hinfinite rfl)
  | .zero s₁, .zero s₂ =>
    have hzero : UnpackedFloat.add .binary64 (.zero s₁) (.zero s₂) =
        .zero (if s₁ == s₂ then s₁ else .positive) := (apply_ite UnpackedFloat.zero ..).symm
    rw [hzero, value_zero, value_zero, add_zero]
    exact .inr (rounds_zero _).isRounded
  | .zero _, .finite .. =>
    rw [value_zero, zero_add]
    exact .inr (rounds_self hfity).isRounded
  | .finite .., .zero _ =>
    rw [value_zero, add_zero]
    exact .inr (rounds_self hfitx).isRounded
  | .finite .., .finite .. => exact .inr (add_rounds ..).isRounded

/-- Adding a number that is not below zero gives no lesser sum. -/
protected theorem le_add (hx : 0.0 ≤ x) (hy : 0.0 ≤ y) : x ≤ x + y := by
  obtain ⟨hxn, hx0⟩ := nonneg_iff.1 hx
  obtain ⟨hyn, hy0⟩ := nonneg_iff.1 hy
  obtain ⟨hnumeric, hlimit⟩ | hround := add_cases hxn hyn hx0 hy0
  · exact (le_iff hxn hnumeric).2 (hlimit ▸ (rat_bounds x).2)
  · exact (le_iff hxn hround.isNumeric).2
      (hround.le (isNumber_rat x) (rat_bounds x).2 (le_add_of_nonneg_right hy0))

end FeatureFlags.Binary64
