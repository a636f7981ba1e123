import FeatureFlags.Flag.Draw
import FeatureFlags.Proofs.FloatOrder

/-!
# Shares and draws

A share keeps the order of percentages. A draw lies from 0 to 1, but the whole share does not let
everyone in: the scale is no number of binary64, so it is rounded up to a power of two, and so are
the 64 greatest leads, whose draw is 1. These are the leads whose first 54 bits are all ones.
-/

namespace FeatureFlags

open Binary64

/-! ### Shares -/

lemma isPositive_hundred : IsPositive 100.0 :=
  ⟨0x19000000000000, -46, by decide, rfl⟩

/-- A greater percentage has no lesser share. -/
theorem shareOf_le_shareOf {p p' : Float} (h : p < p') : shareOf p ≤ shareOf p' :=
  Binary64.div_le_div isPositive_hundred h

lemma shareOf_nonneg {p : Float} (h : 0.0 ≤ p) : 0.0 ≤ shareOf p :=
  Binary64.div_nonneg isPositive_hundred h

/-- The whole percentage has the whole share. -/
lemma shareOf_hundred : shareOf 100.0 = 1.0 := by decide +kernel

/-! ### Draws -/

namespace Sha1.State

variable (s : Sha1.State)

/-- A lead has 60 bits. -/
lemma lead_lt : s.lead.toNat < 2 ^ 60 := by
  have hbits := ((s.a.toUInt64 <<< 32) ||| s.b.toUInt64).toNat_lt
  rw [lead, UInt64.toNat_shiftRight, Nat.shiftRight_eq_div_pow]
  change _ / 16 < _
  omega

lemma isPositive_drawScale : IsPositive drawScale.toFloat := ⟨2 ^ 52, 8, by decide, rfl⟩

/-- The scale is rounded up to a power of two. -/
lemma rat_drawScale : rat drawScale.toFloat = 2 ^ 60 := by
  have hunpack : drawScale.toFloat.toModel.unpack = .finite .positive (2 ^ 52) 8 (by decide) := rfl
  rw [rat, hunpack, value_finite]
  norm_num [signed]

/-- The greatest lead that is rounded down. -/
lemma rat_lastLead : rat (0xFFFFFFFFFFFFFBF : UInt64).toFloat = 2 ^ 60 - 2 ^ 7 := by
  have hunpack : (0xFFFFFFFFFFFFFBF : UInt64).toFloat.toModel.unpack =
    .finite .positive (2 ^ 53 - 1) 7 (by decide) := rfl
  rw [rat, hunpack, value_finite]
  norm_num [signed]

/-- The least lead that is rounded up. -/
lemma rat_firstLead : rat (0xFFFFFFFFFFFFFC0 : UInt64).toFloat = 2 ^ 60 := by
  have hunpack : (0xFFFFFFFFFFFFFC0 : UInt64).toFloat.toModel.unpack =
    .finite .positive (2 ^ 52) 8 (by decide) := rfl
  rw [rat, hunpack, value_finite]
  norm_num [signed]

lemma two_pow_sixty_lt_limit : (2 : ℚ) ^ 60 < limit :=
  calc (2 : ℚ) ^ 60 = 2 ^ (60 : ℤ) := by norm_cast
    _ < limit := zpow_lt_zpow_right₀ one_lt_two (by norm_num)

/-- The lead as a number is at most the scale. -/
lemma rat_lead_bounds : 0 ≤ rat s.lead.toFloat ∧ rat s.lead.toFloat ≤ 2 ^ 60 := by
  have hlead := isRounded_toFloat s.lead
  have hpos : (0 : ℚ) < 2 ^ 60 := by positivity
  constructor
  · exact hlead.le isNumber_zero limit_pos.le (Nat.cast_nonneg _)
  · refine hlead.ge ⟨1, 60, by norm_num, by norm_num, by norm_num⟩ ?_ ?_
    · linarith [limit_pos]
    · exact_mod_cast s.lead_lt.le

/-- A draw is the nearest number to its share of the scale. -/
lemma isRounded_draw : IsRounded (rat s.lead.toFloat / 2 ^ 60) s.draw := by
  obtain ⟨hlow, hhigh⟩ := s.rat_lead_bounds
  rw [← rat_drawScale]
  exact isRounded_div isPositive_drawScale (isRounded_toFloat _).isNumeric
    (by linarith [limit_pos]) (hhigh.trans_lt two_pow_sixty_lt_limit)

lemma rat_draw_nonneg : 0 ≤ rat s.draw :=
  s.isRounded_draw.le isNumber_zero limit_pos.le
    (by have := s.rat_lead_bounds.1; positivity)

lemma one_lt_limit : 1 < limit := lt_of_le_of_lt (by norm_num) two_pow_sixty_lt_limit

lemma rat_draw_le_one : rat s.draw ≤ 1 := by
  refine s.isRounded_draw.ge isNumber_one (by linarith [limit_pos]) ?_
  rw [div_le_one (by positivity)]
  exact s.rat_lead_bounds.2

/-- A draw lies below one unless its lead is rounded up to the scale. -/
lemma rat_draw_lt_one_iff : rat s.draw < 1 ↔ s.lead.toNat < 2 ^ 60 - 64 := by
  have hpos : (0 : ℚ) < 2 ^ 60 := by positivity
  constructor
  · contrapose!
    intro hge
    have hlead : 2 ^ 60 ≤ rat s.lead.toFloat := by
      rw [← rat_firstLead]
      exact toFloat_mono (UInt64.le_iff_toNat_le.2 hge)
    exact s.isRounded_draw.le isNumber_one one_lt_limit.le ((one_le_div hpos).2 hlead)
  · intro hlt
    have hlead : rat s.lead.toFloat ≤ 2 ^ 60 - 2 ^ 7 := by
      rw [← rat_lastLead]
      exact toFloat_mono (UInt64.le_iff_toNat_le.2 (Nat.le_pred_of_lt hlt))
    -- the quotient is rounded once more, and stays below the greatest number below one
    have hbelow : rat s.draw ≤ 1 - 2 ^ (-53 : ℤ) := by
      refine s.isRounded_draw.ge ⟨2 ^ 53 - 1, -53, by norm_num, by norm_num, by norm_num⟩ ?_ ?_
      · have := limit_pos
        norm_num
        linarith
      · rw [div_le_iff₀ hpos]
        norm_num at hlead ⊢
        linarith
    exact hbelow.trans_lt (by norm_num)

/-- Are the first 54 bits all ones? -/
def IsTop : Prop := 2 ^ 60 - 64 ≤ s.lead.toNat
  deriving Decidable

/-- A draw lies from zero to one, and only that of a top lead is one. -/
theorem draw_bounds : 0.0 ≤ s.draw ∧ s.draw ≤ 1.0 ∧ (s.draw < 1.0 ↔ ¬s.IsTop) := by
  have hdraw := s.isRounded_draw.isNumeric
  rw [le_iff isNumeric_zero hdraw, le_iff hdraw isNumeric_one, lt_iff hdraw isNumeric_one, rat_zero,
    rat_one, rat_draw_lt_one_iff, IsTop, not_le]
  exact ⟨s.rat_draw_nonneg, s.rat_draw_le_one, Iff.rfl⟩

end Sha1.State

/-! ### Full rollouts -/

lemma pickKey_full {d : Float} (h : 0.0 ≤ d) (key : String) :
    pickKey (intervalsFrom 0.0 [(key, shareOf 100.0)]) d = if d < 1.0 then some key else none := by
  have hsum : (0.0 : Float) + shareOf 100.0 = 1.0 := by
    rw [shareOf_hundred]
    rfl
  simp only [intervalsFrom, hsum, pickKey, List.find?, DrawInterval.holds, h, decide_true,
    Bool.true_and]
  by_cases hd : d < 1.0
  · simp [hd]
  · simp [hd]

/-- The digest of the draw of an identity for a flag. -/
def drawDigest (flagKey identity salt : String) : Sha1.State :=
  Sha1.digestText (flagKey ++ "." ++ identity ++ salt)

/-- Every draw lies from zero to one. The whole share lets in every identity but those with a top
lead, and the only variant, given to everyone, is drawn by every identity but those. -/
theorem full_rollout (s : Sha1.State) (flagKey identity : String) :
    (0.0 ≤ s.draw ∧ s.draw ≤ 1.0 ∧ (s.draw < 1.0 ↔ ¬s.IsTop)) ∧
    isInRollout flagKey identity (some 100.0) =
      !decide (drawDigest flagKey identity rolloutSalt).IsTop ∧
    ∀ (f : Flag) (v : Variant), f.variants = [v] → v.rollout = 100.0 →
      f.drawVariant identity =
        if (drawDigest f.key identity variantSalt).IsTop then none else some v.key := by
  refine ⟨s.draw_bounds, ?_, fun f v hv hrollout => ?_⟩
  · rw [isInRollout, shareOf_hundred, ← decide_not]
    exact decide_eq_decide.2 (Sha1.State.draw_bounds _).2.2
  · obtain ⟨hlow, -, hone⟩ := (drawDigest f.key identity variantSalt).draw_bounds
    rw [Flag.drawVariant, Flag.variantTable, hv, List.map_singleton, hrollout]
    refine (pickKey_full hlow v.key).trans ?_
    rw [ite_congr (propext hone) (fun _ => rfl) fun _ => rfl, ite_not]

/-- Everyone sees blue. -/
def blueSky : Flag where
  id := 1
  name := none
  key := "sky"
  targeting := ⟨[⟨none, some 100.0, none⟩], some [⟨"blue", none, 100.0⟩], none, none⟩
  isDeleted := false
  isActive := true
  keepsExperience := false
  version := none

theorem full_rollout_blueSky :
    blueSky.drawVariant "someone" =
      if (drawDigest "sky" "someone" variantSalt).IsTop then none else some "blue" :=
  (full_rollout (drawDigest "sky" "someone" variantSalt) "sky" "someone").2.2 blueSky
    ⟨"blue", none, 100.0⟩ rfl rfl

/-- A digest of ones is not let in by the whole share, and draws no variant. -/
theorem full_rollout_leaves_out_ones :
    let s : Sha1.State := ⟨0xFFFFFFFF, 0xFFFFFFFF, 0xFFFFFFFF, 0xFFFFFFFF, 0xFFFFFFFF⟩
    s.draw = 1.0 ∧ ¬s.draw < shareOf 100.0 ∧
    pickKey (intervalsFrom 0.0 [("blue", shareOf 100.0)]) s.draw = none := by
  decide +kernel

end FeatureFlags
