import FeatureFlags.Proofs.Shares

/-!
# Variants partition the draws

The intervals of the variants of a flag follow each other from zero on. A draw below the last end
lies in one of them and no other, and that one is picked; a draw from the last end on picks none.
Variants that are added at the end leave the draws alone that had a variant before.
-/

namespace FeatureFlags

open Binary64

variable {start d : Float} {lengths : List (String × Float)} {i : DrawInterval Float}

/-! ### One interval after the other -/

lemma map_key_intervalsFrom : (intervalsFrom start lengths).map (·.key) = lengths.map Prod.fst := by
  induction lengths generalizing start with
  | nil => rfl
  | cons head rest ih => exact congrArg _ ih

lemma start_of_mem_head? (h : i ∈ (intervalsFrom start lengths).head?) : i.start = start := by
  cases lengths with
  | nil => cases h
  | cons head rest =>
    cases h
    rfl

/-- Each interval starts where the one before ends. -/
lemma isChain_intervalsFrom :
    (intervalsFrom start lengths).IsChain fun i j => j.start = i.finish := by
  induction lengths generalizing start with
  | nil => exact .nil
  | cons head rest ih =>
    cases rest with
    | nil => exact .singleton _
    | cons next rest => exact .cons_cons rfl ih

/-- Intervals lie after the start, and none ends before it starts. -/
lemma le_of_mem_intervalsFrom (hstart : 0.0 ≤ start) (hlengths : ∀ l ∈ lengths, 0.0 ≤ l.2)
    (hi : i ∈ intervalsFrom start lengths) : start ≤ i.start ∧ i.start ≤ i.finish := by
  induction lengths generalizing start with
  | nil => cases hi
  | cons head rest ih =>
    rw [List.forall_mem_cons] at hlengths
    have hle : start ≤ start + head.2 := Binary64.le_add hstart hlengths.1
    obtain rfl | hi := List.mem_cons.1 hi
    · exact ⟨Binary64.le_refl (isNumeric_of_le hstart).2, hle⟩
    · obtain ⟨hlow, hhigh⟩ := ih (Binary64.le_trans hstart hle) hlengths.2 hi
      exact ⟨Binary64.le_trans hle hlow, hhigh⟩

/-! ### One interval for each draw -/

/-- Does the draw lie below the last end? -/
def IsBelowEnd (table : List (DrawInterval Float)) (d : Float) : Prop :=
  ∃ last ∈ table.getLast?, d < last.finish

lemma isBelowEnd_cons {table : List (DrawInterval Float)} :
    IsBelowEnd (i :: table) d ↔ d < (table.getLast?.getD i).finish := by
  simp [IsBelowEnd, List.getLast?_cons]

lemma holds_iff : i.holds d = true ↔ i.start ≤ d ∧ d < i.finish := by
  rw [DrawInterval.holds, Bool.and_eq_true, decide_eq_true_iff, decide_eq_true_iff]

/-- A draw from the start on lies in one interval and no other, if it lies below the last end. -/
lemma filter_holds (hstart : 0.0 ≤ start) (hlengths : ∀ l ∈ lengths, 0.0 ≤ l.2) (hd : start ≤ d) :
    (IsBelowEnd (intervalsFrom start lengths) d →
      ∃ i, (intervalsFrom start lengths).filter (·.holds d) = [i]) ∧
    (¬IsBelowEnd (intervalsFrom start lengths) d →
      (intervalsFrom start lengths).filter (·.holds d) = []) := by
  induction lengths generalizing start with
  | nil =>
    refine ⟨fun h => ?_, fun _ => rfl⟩
    obtain ⟨_, h, -⟩ := h
    cases h
  | cons head rest ih =>
    obtain ⟨key, length⟩ := head
    rw [List.forall_mem_cons] at hlengths
    have hmid : start ≤ start + length := Binary64.le_add hstart hlengths.1
    obtain ⟨hstart', hd'⟩ := isNumeric_of_le hd
    have hrest {j} (hj : j ∈ intervalsFrom (start + length) rest) :=
      le_of_mem_intervalsFrom (Binary64.le_trans hstart hmid) hlengths.2 hj
    rw [intervalsFrom, isBelowEnd_cons]
    have hhead : (⟨start, start + length, key⟩ : DrawInterval Float).holds d = true ↔
        d < start + length := holds_iff.trans (and_iff_right hd)
    by_cases hlt : d < start + length
    · -- the rest starts beyond the draw
      have hempty : (intervalsFrom (start + length) rest).filter (·.holds d) = [] :=
        List.filter_eq_nil_iff.2 fun j hj hholds =>
          not_le_of_lt (Binary64.lt_of_lt_of_le hlt (hrest hj).1) (holds_iff.1 hholds).1
      have hbelow : d < ((intervalsFrom (start + length) rest).getLast?.getD
          ⟨start, start + length, key⟩).finish := by
        cases hlast : (intervalsFrom (start + length) rest).getLast? with
        | none => exact hlt
        | some last =>
          obtain ⟨hlow, hhigh⟩ := hrest (List.mem_of_getLast? hlast)
          exact Binary64.lt_of_lt_of_le hlt (Binary64.le_trans hlow hhigh)
      rw [List.filter_cons, if_pos (hhead.2 hlt), hempty]
      exact ⟨fun _ => ⟨_, rfl⟩, fun h => absurd hbelow h⟩
    · -- the first interval ends before the draw
      rw [List.filter_cons, if_neg (mt hhead.1 hlt)]
      have hmid' := (isNumeric_of_le hmid).2
      obtain ⟨hone, hnone⟩ := ih (Binary64.le_trans hstart hmid) hlengths.2
        ((not_lt_iff hd' hmid').1 hlt)
      cases hlast : (intervalsFrom (start + length) rest).getLast? with
      | none =>
        refine ⟨fun h => absurd h hlt, fun _ => hnone fun h => ?_⟩
        obtain ⟨last, hmem, -⟩ := h
        rw [hlast] at hmem
        cases hmem
      | some last =>
        have hiff : IsBelowEnd (intervalsFrom (start + length) rest) d ↔ d < last.finish := by
          simp [IsBelowEnd, hlast]
        rw [hiff] at hone hnone
        exact ⟨hone, hnone⟩

lemma pickKey_eq (table : List (DrawInterval Float)) (d : Float) :
    pickKey table d = (table.filter (·.holds d)).head?.map (·.key) := by
  rw [List.head?_filter]
  rfl

/-! ### Variants -/

/-- More intervals at the end leave a draw alone that lies in one of the others. -/
lemma pickKey_append {table more : List (DrawInterval Float)} {key : String}
    (h : pickKey table d = some key) : pickKey (table ++ more) d = some key := by
  obtain ⟨i, hi, rfl⟩ := Option.map_eq_some_iff.1 h
  rw [pickKey, List.find?_append, hi]
  rfl

lemma exists_intervalsFrom_append (more : List (String × Float)) :
    ∃ table, intervalsFrom start (lengths ++ more) = intervalsFrom start lengths ++ table := by
  induction lengths generalizing start with
  | nil => exact ⟨_, rfl⟩
  | cons head rest ih =>
    obtain ⟨table, htable⟩ := @ih (start + head.2)
    exact ⟨table, congrArg _ htable⟩

namespace Flag

/-- Variants with percentages that are not below zero have one interval each, in their order, from
zero on. A draw below the last end lies in exactly one interval, whose key is picked, and any other
draw picks none. Variants added at the end change no draw that had one. -/
theorem variants_partition_draws (f : Flag) (hf : ∀ v ∈ f.variants, 0.0 ≤ v.rollout) :
    f.variantTable.map (·.key) = f.variants.map (·.key) ∧
    (∀ i ∈ f.variantTable.head?, i.start = 0.0) ∧
    f.variantTable.IsChain (fun i j => j.start = i.finish) ∧
    (∀ i ∈ f.variantTable, i.start ≤ i.finish) ∧
    (∀ d, 0.0 ≤ d → IsBelowEnd f.variantTable d →
      ∃ i, f.variantTable.filter (·.holds d) = [i] ∧ pickKey f.variantTable d = some i.key) ∧
    (∀ d, 0.0 ≤ d → ¬IsBelowEnd f.variantTable d → pickKey f.variantTable d = none) ∧
    ∀ (f' : Flag) (more : List Variant), f'.variants = f.variants ++ more → ∀ d key,
      pickKey f.variantTable d = some key → pickKey f'.variantTable d = some key := by
  have hlengths : ∀ l ∈ f.variants.map fun v => (v.key, shareOf v.rollout), 0.0 ≤ l.2 := by
    intro l hl
    obtain ⟨v, hv, rfl⟩ := List.mem_map.1 hl
    exact shareOf_nonneg (hf v hv)
  have hzero : (0.0 : Float) ≤ 0.0 := Binary64.le_refl isNumeric_zero
  refine ⟨?_, fun i => start_of_mem_head?, isChain_intervalsFrom,
    fun i hi => (le_of_mem_intervalsFrom hzero hlengths hi).2, fun d hd hbelow => ?_,
    fun d hd hbelow => ?_, fun f' more hmore d key hpick => ?_⟩
  · rw [variantTable, map_key_intervalsFrom, List.map_map]
    rfl
  · obtain ⟨i, hi⟩ := (filter_holds hzero hlengths hd).1 hbelow
    exact ⟨i, hi, by rw [pickKey_eq, variantTable, hi]; rfl⟩
  · rw [pickKey_eq, variantTable, (filter_holds hzero hlengths hd).2 hbelow]
    rfl
  · obtain ⟨table, htable⟩ := @exists_intervalsFrom_append 0.0
      (f.variants.map fun v => (v.key, shareOf v.rollout))
      (more.map fun v => (v.key, shareOf v.rollout))
    rw [variantTable, hmore, List.map_append, htable]
    exact pickKey_append hpick

end Flag

/-- Blue and red, with nobody left for green and a fifth left for none of them. -/
def threeColours : Flag where
  id := 1
  name := none
  key := "palette"
  targeting := ⟨[⟨none, none, none⟩],
    some [⟨"blue", none, 50.0⟩, ⟨"green", none, 0.0⟩, ⟨"red", none, 30.0⟩], none, none⟩
  isDeleted := false
  isActive := true
  keepsExperience := false
  version := none

theorem variants_partition_draws_threeColours :
    ∃ i, threeColours.variantTable.filter (·.holds 0.5) = [i] ∧
      pickKey threeColours.variantTable 0.5 = some i.key :=
  (threeColours.variants_partition_draws (by decide +kernel)).2.2.2.2.1 0.5 (by decide +kernel)
    ⟨_, rfl, by decide +kernel⟩

end FeatureFlags
