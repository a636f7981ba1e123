import FeatureFlags.Decimal.Shortest
import Mathlib.Tactic.FieldSimp
import Mathlib.Tactic.Linarith
import Mathlib.Tactic.Ring

/-!
# A number is known by its shortest decimal

The numbers that round to a binary64 number lie in an interval, and no two intervals meet: where one
ends and the next begins, the common point belongs to the one whose mantissa is even. The shortest
decimal of a number lies in its interval, since among decimals of seventeen digits two neighbours
are closer together than the ends of an interval. So different numbers have different decimals.
-/

namespace FeatureFlags.Decimal

open Float.Model

/-! ### The parts of a number -/

/-- The parts of a number of binary64: only the numbers with the least exponent may have a mantissa
that is less than the leading one. -/
structure Binary.Proper (b : Binary) : Prop where
  least : minExponent ≤ b.exponent
  bounded : b.mantissa < 2 * leadingMantissa
  leading : minExponent < b.exponent → leadingMantissa ≤ b.mantissa

namespace Binary

variable {b b' : Binary} {n : Nat} {x y : Float}

lemma leadingMantissa_eq : leadingMantissa = 4503599627370496 := rfl

lemma Proper.exponent_eq (hb : b.Proper) (h : b.mantissa = 0) : b.exponent = minExponent := by
  by_contra hne
  have hleading := hb.leading (lt_of_le_of_ne hb.least (Ne.symm hne))
  rw [h, leadingMantissa_eq] at hleading
  omega

lemma proper_ofBits? (h : ofBits? n = some b) : b.Proper := by
  have hfraction : n % Nat.pow 2 52 < Nat.pow 2 52 := Nat.mod_lt _ (by decide)
  simp only [ofBits?] at h
  generalize n / Nat.pow 2 52 % Nat.pow 2 11 = exponent at h
  split at h
  · cases h
  · split at h
    · obtain rfl := Option.some.inj h
      exact ⟨le_rfl, by simp only [leadingMantissa]; omega, fun hlt => absurd hlt (lt_irrefl _)⟩
    · obtain rfl := Option.some.inj h
      exact ⟨by simp only; omega, by simp only [leadingMantissa]; omega,
        fun _ => Nat.le_add_right _ _⟩

/-- The bits of a number: a mantissa with its leading one counts on into the exponent. -/
def bits (b : Binary) : Nat :=
  (if b.negative then Nat.pow 2 63 else 0)
    + (b.exponent - minExponent).toNat * leadingMantissa + b.mantissa

lemma bits_ofBits? (hn : n < Nat.pow 2 64) (h : ofBits? n = some b) : b.bits = n := by
  simp only [ofBits?] at h
  generalize hexponent : n / Nat.pow 2 52 % Nat.pow 2 11 = exponent at h
  generalize hnegative : n / Nat.pow 2 63 % 2 = negative at h
  have hsign : (if (negative == 1) = true then Nat.pow 2 63 else 0) = negative * Nat.pow 2 63 := by
    obtain rfl | rfl : negative = 0 ∨ negative = 1 := by omega
    · rfl
    · rfl
  have hsplit : n = negative * Nat.pow 2 63 + exponent * leadingMantissa + n % Nat.pow 2 52 := by
    simp only [leadingMantissa, Nat.pow_eq] at *
    omega
  split at h
  · cases h
  · split at h
    · rename_i hzero
      obtain rfl := Option.some.inj h
      simp only [bits, hsign, sub_self, Int.toNat_zero]
      rw [hzero] at hsplit
      exact hsplit.symm
    · rename_i hpos
      obtain rfl := Option.some.inj h
      obtain ⟨e, rfl⟩ := Nat.exists_eq_succ_of_ne_zero hpos
      have hexp : (minExponent + (e.succ : Int) - 1 - minExponent).toNat = e := by omega
      simp only [bits, hsign, hexp]
      rw [Nat.succ_mul] at hsplit
      omega

lemma eq_of_toBits (h : x.toBits = y.toBits) : x = y := by
  rcases x with ⟨⟨bits, hvalid⟩⟩
  rcases y with ⟨⟨bits', hvalid'⟩⟩
  cases show bits = bits' from h
  rfl

/-- A finite number is known by its parts. -/
lemma ofFloat?_inj (hx : ofFloat? x = some b) (hy : ofFloat? y = some b) : x = y := by
  refine eq_of_toBits (UInt64.toNat_inj.1 ?_)
  rw [← bits_ofBits? x.toBits.toNat_lt hx, ← bits_ofBits? y.toBits.toNat_lt hy]

lemma toNat_unpackExponent (x : Float) :
    (@UnpackedFloat.unpackExponent Format.binary64 x.toBits.toBitVec).toNat =
      x.toBits.toNat / Nat.pow 2 52 % Nat.pow 2 11 := by
  simp [UnpackedFloat.unpackExponent, BitVec.extractLsb, BitVec.extractLsb',
    Nat.shiftRight_eq_div_pow]

/-- With all ones in the exponent there is no finite number. -/
lemma unpack_of_ones {bits : BitVec Format.binary64.numBits}
    (h : UnpackedFloat.unpackExponent bits = -1#_) :
    UnpackedFloat.unpack Format.binary64 bits =
      if UnpackedFloat.unpackMantissa bits = 0#_ then
        .infinity (.ofBitVec (UnpackedFloat.unpackSign bits))
      else .notANumber := if_pos h

/-- Every finite number has parts. -/
lemma exists_ofFloat? (h : x.isFinite = true) : ∃ b, ofFloat? x = some b := by
  have hexponent : x.toBits.toNat / Nat.pow 2 52 % Nat.pow 2 11 ≠ 2047 := by
    rw [← toNat_unpackExponent]
    intro hall
    have hones : @UnpackedFloat.unpackExponent Format.binary64 x.toBits.toBitVec = -1#_ :=
      BitVec.eq_of_toNat_eq hall
    change (UnpackedFloat.unpack Format.binary64 x.toBits.toBitVec).isFinite = true at h
    rw [unpack_of_ones hones] at h
    split at h
    · cases h
    · cases h
  simp only [ofFloat?, ofBits?, if_neg hexponent]
  split <;> exact ⟨_, rfl⟩

end Binary

/-! ### Intervals do not meet -/

namespace Interval

variable {i : Interval} {b b' : Binary} {x : Nat}

/-- The part of a gap that intervals are measured by. -/
def quarter (b : Binary) : Nat :=
  Nat.pow 2 (b.exponent - Binary.minExponent).toNat * Nat.pow 10 unitPlaces

lemma quarter_pos (b : Binary) : 0 < quarter b := by
  simp only [quarter, Nat.pow_eq]
  positivity

/-- With a greater exponent gaps are at least twice as wide. -/
lemma exists_quarter_eq (hb : b.Proper) (h : b.exponent < b'.exponent) :
    ∃ w, quarter b' = 2 * w ∧ quarter b ≤ w := by
  have hleast := hb.least
  obtain ⟨t, ht⟩ : ∃ t, (b'.exponent - Binary.minExponent).toNat =
      (b.exponent - Binary.minExponent).toNat + t + 1 :=
    ⟨(b'.exponent - b.exponent).toNat - 1, by omega⟩
  refine ⟨2 ^ t * quarter b, ?_, Nat.le_mul_of_pos_left _ (Nat.two_pow_pos t)⟩
  simp only [quarter, ht, Nat.pow_eq]
  ring

lemma value_ofBinary (b : Binary) : (ofBinary b).value = 4 * b.mantissa * quarter b := rfl

lemma high_ofBinary (b : Binary) : (ofBinary b).high = (4 * b.mantissa + 2) * quarter b :=
  (Nat.add_mul _ _ _).symm

lemma closed_ofBinary : (ofBinary b).closed = true ↔ b.mantissa % 2 = 0 := decide_eq_true_iff

/-- Below most numbers the interval ends at half a gap. -/
lemma low_ofBinary (h : b.mantissa ≠ Binary.leadingMantissa ∨ b.exponent = Binary.minExponent) :
    (ofBinary b).low = (4 * b.mantissa - 2) * quarter b := by
  have hnot : ¬(b.mantissa = Binary.leadingMantissa ∧ b.exponent ≠ Binary.minExponent) := by tauto
  simp only [ofBinary, if_neg hnot, Nat.sub_mul]
  rfl

/-- Below a power of two it ends at a quarter of a gap. -/
lemma low_ofBinary_powerOfTwo (h : b.mantissa = Binary.leadingMantissa)
    (hexponent : b.exponent ≠ Binary.minExponent) :
    (ofBinary b).low = (4 * b.mantissa - 1) * quarter b := by
  simp only [ofBinary, if_pos (And.intro h hexponent), Nat.sub_mul, Nat.one_mul]
  rfl

lemma contains_iff : i.contains x = true ↔
    i.low ≤ x ∧ x ≤ i.high ∧ (i.closed = true ∨ i.low < x ∧ x < i.high) := by
  cases hclosed : i.closed with
  | true => simp [contains, hclosed]
  | false =>
    simp only [contains, hclosed, Bool.false_eq_true, if_false, Bool.and_eq_true,
      decide_eq_true_eq, false_or]
    exact ⟨fun h => ⟨h.1.le, h.2.le, h⟩, fun h => h.2.2⟩

/-- The order of the parts. -/
def Before (b b' : Binary) : Prop :=
  b.exponent < b'.exponent ∨ b.exponent = b'.exponent ∧ b.mantissa < b'.mantissa

/-- The interval of a number does not reach beyond the beginning of that of a greater number, and at
most one of the two has that point. -/
lemma high_le_low (hb : b.Proper) (hb' : b'.Proper) (h : Before b b') :
    (ofBinary b).high ≤ (ofBinary b').low ∧ ((ofBinary b).high = (ofBinary b').low →
      ¬((ofBinary b).closed = true ∧ (ofBinary b').closed = true)) := by
  have hleast := hb.least
  have hpos := quarter_pos b
  rw [high_ofBinary, closed_ofBinary, closed_ofBinary]
  -- quarters double with the exponent, and a power of two has a shorter interval below it
  rcases h with hlt | ⟨heq, hlt⟩
  · obtain ⟨w, hw, hwide⟩ := exists_quarter_eq hb hlt
    have hbounded := hb.bounded
    have hleading := hb'.leading (by omega)
    have hhigh : (4 * b.mantissa + 2) * quarter b ≤ (4 * b.mantissa + 2) * w :=
      Nat.mul_le_mul_left _ hwide
    have hlow : (8 * Binary.leadingMantissa - 2) * w ≤ (ofBinary b').low := by
      by_cases hpower : b'.mantissa = Binary.leadingMantissa
      · rw [low_ofBinary_powerOfTwo hpower (by omega), hpower, hw, ← Nat.mul_assoc]
        exact Nat.mul_le_mul_right w (by omega)
      · rw [low_ofBinary (.inl hpower), hw, ← Nat.mul_assoc]
        exact Nat.mul_le_mul_right w (by omega)
    refine ⟨hhigh.trans (.trans (Nat.mul_le_mul_right w (by omega)) hlow), fun h hclosed => ?_⟩
    -- the greatest mantissa of all is odd
    have hle : (8 * Binary.leadingMantissa - 2) * w ≤ (4 * b.mantissa + 2) * w := by omega
    have := Nat.le_of_mul_le_mul_right hle (by omega)
    simp only [Binary.leadingMantissa_eq] at *
    omega
  · have hquarter : quarter b' = quarter b := by rw [quarter, quarter, heq]
    have hlow : (ofBinary b').low = (4 * b'.mantissa - 2) * quarter b := by
      refine hquarter ▸ low_ofBinary ?_
      by_contra! hnot
      have := hb.leading (by omega)
      omega
    rw [hlow]
    refine ⟨Nat.mul_le_mul_right _ (by omega), fun h hclosed => ?_⟩
    have := Nat.eq_of_mul_eq_mul_right hpos h
    omega

lemma Before.not_contains (h : Before b b') (hb : b.Proper) (hb' : b'.Proper)
    (hx : (ofBinary b).contains x = true) : (ofBinary b').contains x = false := by
  obtain ⟨hle, hmeet⟩ := high_le_low hb hb' h
  refine Bool.eq_false_iff.2 fun hx' => ?_
  rw [contains_iff] at hx hx'
  obtain ⟨-, hhigh, hclosed⟩ := hx
  obtain ⟨hlow, -, hclosed'⟩ := hx'
  exact hmeet (by omega) ⟨hclosed.resolve_right (by omega), hclosed'.resolve_right (by omega)⟩

/-- A point rounds to one number only. -/
lemma contains_inj (hb : b.Proper) (hb' : b'.Proper) (hx : (ofBinary b).contains x = true)
    (hx' : (ofBinary b').contains x = true) :
    b.mantissa = b'.mantissa ∧ b.exponent = b'.exponent := by
  by_contra hne
  have hbefore : Before b b' ∨ Before b' b := by
    simp only [Before]
    omega
  rcases hbefore with h | h
  · rw [h.not_contains hb hb' hx] at hx'
    cases hx'
  · rw [h.not_contains hb' hb hx'] at hx
    cases hx

/-! ### The shortest decimal lies in the interval -/

variable {k : Int} {n : Nat}

lemma contains_of_onGrid? (h : i.onGrid? k = some n) : i.contains (n * step k) = true := by
  simp only [onGrid?] at h
  generalize step k = width at h ⊢
  split at h
  · rename_i hlower hupper
    split at h
    · exact Option.some.inj h ▸ hlower
    · exact Option.some.inj h ▸ hupper
  · rename_i hlower _
    exact Option.some.inj h ▸ hlower
  · rename_i _ hupper
    exact Option.some.inj h ▸ hupper
  · cases h

/-- If one of the two neighbours on a grid lies in the interval, the grid has a point there. -/
lemma isSome_onGrid? (h : i.contains (i.value / step k * step k) = true ∨
    i.contains ((i.value / step k + 1) * step k) = true) : (i.onGrid? k).isSome = true := by
  simp only [onGrid?]
  generalize step k = width at h ⊢
  split
  · split <;> rfl
  · rfl
  · rfl
  · rename_i hlower hupper
    rw [hlower, hupper] at h
    exact absurd h (by decide)

/-- The value of a decimal, in units. -/
def units (d : Digits) : Nat := d.digits * step d.exponent

lemma step_succ (h : -unitPlaces ≤ k) : step (k + 1) = 10 * step k := by
  have hexponent : (k + 1 + unitPlaces).toNat = (k + unitPlaces).toNat + 1 := by omega
  simp only [step, hexponent]
  generalize Nat.pow 2 1076 = scale
  rw [Nat.pow_eq, Nat.pow_eq, Nat.pow_succ]
  ring

lemma units_trim (fuel : Nat) {d : Digits} (h : -unitPlaces ≤ d.exponent) :
    units (d.trim fuel) = units d := by
  induction fuel generalizing d with
  | zero => rfl
  | succ fuel ih =>
    rw [Digits.trim]
    split
    · rename_i hdigits
      have hlast : 10 * (d.digits / 10) = d.digits := by omega
      rw [ih (by simp only; omega)]
      simp only [units, step_succ h]
      rw [← Nat.mul_assoc, Nat.mul_comm _ 10, hlast]
    · rfl

/-- A search that comes to a grid with a point in the interval finds a decimal there. -/
lemma contains_search {fuel : Nat} (places : Nat) (hplaces : places < fuel)
    (hk : places - unitPlaces ≤ k) (h : (i.onGrid? (k - places)).isSome = true) :
    i.contains (units (i.search fuel k)) = true := by
  induction fuel generalizing places k with
  | zero => omega
  | succ fuel ih =>
    rw [search]
    cases hgrid : i.onGrid? k with
    | some n =>
      rw [units_trim _ (by simp only; omega)]
      exact contains_of_onGrid? hgrid
    | none =>
      cases places with
      | zero => simp [hgrid] at h
      | succ places =>
        refine ih places (by omega) (by omega) ?_
        rwa [show k - 1 - (places : Int) = k - (places + 1 : Nat) by omega]

lemma step_pos (k : Int) : 0 < step k := by
  simp only [step]
  generalize 1076 = places
  exact Nat.mul_pos (Nat.pow_pos (Nat.succ_pos 9)) (Nat.two_pow_pos places)

lemma contains_of_between (hlow : i.low < x) (hhigh : x < i.high) : i.contains x = true :=
  contains_iff.2 ⟨hlow.le, hhigh.le, .inr ⟨hlow, hhigh⟩⟩

/-- A grid that is fine enough has a point in the interval: the point above a power of two, and
otherwise one of the two neighbours, since they are closer together than the ends. -/
lemma isSome_onGrid?_of_fine (hb : b.Proper) (hpos : 0 < b.mantissa)
    (hfine : Nat.pow 10 16 * step k ≤ (ofBinary b).value) :
    ((ofBinary b).onGrid? k).isSome = true := by
  have hquarter := quarter_pos b
  have hhigh : (ofBinary b).high = (ofBinary b).value + 2 * quarter b := rfl
  have hupper : ((ofBinary b).value / step k + 1) * step k =
      (ofBinary b).value / step k * step k + step k := Nat.succ_mul _ _
  have hsplit := Nat.div_add_mod' (ofBinary b).value (step k)
  have hrest := Nat.mod_lt (ofBinary b).value (step_pos k)
  have hvalue := value_ofBinary b
  have hscale : Nat.pow 10 16 = 10000000000000000 := rfl
  rw [hscale] at hfine
  -- below a power of two the interval is too short to be sure of a point there
  by_cases hpower : b.mantissa = Binary.leadingMantissa
  · refine isSome_onGrid? (.inr (contains_of_between ?_ ?_))
    · have hlow : (ofBinary b).low ≤ (ofBinary b).value := Nat.sub_le _ _
      omega
    · rw [hpower, Binary.leadingMantissa_eq] at hvalue
      omega
  · have hlow : (ofBinary b).low = (ofBinary b).value - 2 * quarter b := by
      rw [low_ofBinary (.inl hpower), Nat.sub_mul, value_ofBinary]
    have hbound : 4 * b.mantissa * quarter b ≤ 4 * 9007199254740991 * quarter b :=
      Nat.mul_le_mul_right _ (by have := hb.bounded; rw [Binary.leadingMantissa_eq] at this; omega)
    by_cases hnear : (ofBinary b).value % step k < 2 * quarter b
    · exact isSome_onGrid? (.inl (contains_of_between (by omega) (by omega)))
    · exact isSome_onGrid? (.inr (contains_of_between (by omega) (by omega)))

/-- In units, every number has more than twenty digits before the point. -/
lemma pow_twenty_le (hpos : 0 < b.mantissa) :
    Nat.pow 10 20 ≤ (ofBinary b).value / Nat.pow 2 1076 := by
  have hscale : Nat.pow 10 20 * Nat.pow 2 1076 ≤ 4 * Nat.pow 10 unitPlaces := by decide +kernel
  have hunit : 0 < Nat.pow 2 1076 := by decide +kernel
  refine (Nat.le_div_iff_mul_le hunit).2 (hscale.trans ?_)
  rw [value_ofBinary, quarter, ← Nat.mul_assoc]
  refine Nat.mul_le_mul_right _ ?_
  exact Nat.mul_le_mul (Nat.le_mul_of_pos_right 4 hpos) (Nat.two_pow_pos _)

lemma lt_count_iff {n places : Nat} (hplaces : 0 < places) :
    places < Digits.count n ↔ Nat.pow 10 places ≤ n := by
  rw [← not_le, Digits.count, Nat.length_toDigits_le_iff (by decide) hplaces, not_lt]
  rfl

/-- The search begins with the place of the first digit, and goes sixteen places further. -/
lemma contains_shortest (hb : b.Proper) (hpos : 0 < b.mantissa) :
    (ofBinary b).contains (units b.shortest) = true := by
  have hmany := (lt_count_iff (by decide)).2 (pow_twenty_le hpos)
  simp only [Binary.shortest, if_neg (Nat.ne_of_gt hpos)]
  generalize hplaces : Digits.count ((ofBinary b).value / Nat.pow 2 1076) = places at hmany ⊢
  refine contains_search 16 (by decide) (by omega) ?_
  refine isSome_onGrid?_of_fine hb hpos ?_
  have hexponent :
      ((places : Int) - 1 - unitPlaces - (16 : Nat) + unitPlaces).toNat = places - 17 := by
    omega
  have hfirst : Nat.pow 10 (16 + (places - 17)) ≤ (ofBinary b).value / Nat.pow 2 1076 :=
    (lt_count_iff (by omega)).1 (by omega)
  calc Nat.pow 10 16 * step ((places : Int) - 1 - unitPlaces - (16 : Nat))
      = Nat.pow 10 (16 + (places - 17)) * Nat.pow 2 1076 := by
        rw [step, hexponent, ← Nat.mul_assoc]
        exact congrArg (· * Nat.pow 2 1076) (Nat.pow_add 10 16 _).symm
    _ ≤ (ofBinary b).value / Nat.pow 2 1076 * Nat.pow 2 1076 := Nat.mul_le_mul_right _ hfirst
    _ ≤ (ofBinary b).value := Nat.div_mul_le_self _ _

lemma low_pos (hpos : 0 < b.mantissa) : 0 < (ofBinary b).low := by
  have hquarter := quarter_pos b
  by_cases hpower : b.mantissa = Binary.leadingMantissa ∧ b.exponent ≠ Binary.minExponent
  · rw [low_ofBinary_powerOfTwo hpower.1 hpower.2]
    exact Nat.mul_pos (by omega) hquarter
  · rw [low_ofBinary (by tauto)]
    exact Nat.mul_pos (by omega) hquarter

lemma units_shortest_eq_zero_iff (hb : b.Proper) : units b.shortest = 0 ↔ b.mantissa = 0 := by
  constructor
  · intro h
    by_contra hne
    have hpos := Nat.pos_of_ne_zero hne
    have hlow := (contains_iff.1 (contains_shortest hb hpos)).1
    have := low_pos hpos
    omega
  · intro h
    rw [Binary.shortest, if_pos h, units, Nat.zero_mul]

/-- The shortest decimals of different numbers have different values. -/
theorem units_shortest_inj (hb : b.Proper) (hb' : b'.Proper)
    (h : units b.shortest = units b'.shortest) :
    b.mantissa = b'.mantissa ∧ b.exponent = b'.exponent := by
  have hzeros : b.mantissa = 0 ↔ b'.mantissa = 0 := by
    rw [← units_shortest_eq_zero_iff hb, h, units_shortest_eq_zero_iff hb']
  rcases Nat.eq_zero_or_pos b.mantissa with hzero | hpos
  · have hzero' := hzeros.1 hzero
    exact ⟨hzero.trans hzero'.symm, (hb.exponent_eq hzero).trans (hb'.exponent_eq hzero').symm⟩
  · have hpos' : 0 < b'.mantissa := Nat.pos_of_ne_zero fun hzero' => hpos.ne' (hzeros.2 hzero')
    have hpoint := contains_shortest hb hpos
    rw [h] at hpoint
    exact contains_inj hb hb' hpoint (contains_shortest hb' hpos')

end Interval

/-! ### Decimals as rational numbers -/

namespace Digits

variable {d : Digits}

/-- The value of a decimal. -/
def value (d : Digits) : ℚ := d.digits * 10 ^ d.exponent

lemma units_eq (h : -unitPlaces ≤ d.exponent) :
    (Interval.units d : ℚ) = d.value * Interval.step 0 := by
  have hexponent : d.exponent = ((d.exponent + unitPlaces).toNat : Int) - unitPlaces := by omega
  rw [Interval.units, Interval.step, Interval.step, value, zero_add, Int.toNat_natCast]
  generalize Nat.pow 2 1076 = scale
  generalize (d.exponent + unitPlaces).toNat = places at hexponent ⊢
  rw [hexponent, zpow_sub₀ (by norm_num), zpow_natCast, zpow_natCast, Nat.pow_eq, Nat.pow_eq]
  push_cast
  field_simp

lemma exponent_le_trim (fuel : Nat) (d : Digits) : d.exponent ≤ (d.trim fuel).exponent := by
  induction fuel generalizing d with
  | zero => exact le_rfl
  | succ fuel ih =>
    rw [trim]
    split
    · exact (Int.le_add_one le_rfl).trans (ih _)
    · exact le_rfl

lemma exponent_search {i : Interval} {fuel : Nat} {k : Int} :
    k - fuel ≤ (i.search fuel k).exponent := by
  induction fuel generalizing k with
  | zero => simp [Interval.search]
  | succ fuel ih =>
    rw [Interval.search]
    split
    · exact le_trans (by simp only; omega) (exponent_le_trim 20 _)
    · exact le_trans (by omega) ih

end Digits

namespace Binary

variable {b b' : Binary}

lemma exponent_shortest (b : Binary) : -unitPlaces ≤ b.shortest.exponent := by
  rw [shortest]
  split
  · decide
  · rename_i hpos
    have hmany := (Interval.lt_count_iff (by decide)).2
      (Interval.pow_twenty_le (Nat.pos_of_ne_zero hpos))
    exact le_trans (by omega) Digits.exponent_search

/-- A number is known by its sign and the value of its shortest decimal. -/
theorem eq_of_value_shortest (hb : b.Proper) (hb' : b'.Proper) (hsign : b.negative = b'.negative)
    (h : b.shortest.value = b'.shortest.value) : b = b' := by
  have hunits : (Interval.units b.shortest : ℚ) = Interval.units b'.shortest := by
    rw [Digits.units_eq (exponent_shortest b), Digits.units_eq (exponent_shortest b'), h]
  obtain ⟨hmantissa, hexponent⟩ := Interval.units_shortest_inj hb hb' (Nat.cast_injective hunits)
  obtain ⟨negative, mantissa, exponent⟩ := b
  obtain ⟨negative', mantissa', exponent'⟩ := b'
  obtain rfl : negative = negative' := hsign
  obtain rfl : mantissa = mantissa' := hmantissa
  obtain rfl : exponent = exponent' := hexponent
  rfl

end Binary

end FeatureFlags.Decimal
