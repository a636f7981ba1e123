import FeatureFlags.Condition.Matching
import FeatureFlags.Proofs.BareCapitals
import FeatureFlags.Proofs.IntegerFloats
import FeatureFlags.Proofs.NumberText

/-!
# Comparing integers

The order of integers is read off the nearest floats, and their equality off their texts. So a
condition never takes the smaller of two integers for the greater, but integers with the same
nearest float count as neither smaller nor greater, although they are not the same. No two integers
of up to 53 bits have one, nor have any two that are values of floats.
-/

namespace FeatureFlags

open Binary64
open Calendar (Instant)

/-! ### Order -/

section Order

variable {x y : Float} {a b : Int}

lemma Binary64.beq_iff (hx : IsNumeric x) (hy : IsNumeric y) : (x == y) = true ↔ rat x = rat y := by
  change (x.toModel.unpack.compare y.toModel.unpack == some .eq) = true ↔ _
  rw [beq_iff_eq, compare_of_isNumeric hx hy, Option.some_inj, compare_eq_iff_eq]

/-- Numbers are compared by their values. -/
lemma compareNumbers?_eq (hx : IsNumeric x) (hy : IsNumeric y) :
    compareNumbers? x y = some (compare (rat x) (rat y)) := by
  simp only [compareNumbers?, lt_iff hx hy, lt_iff hy hx, beq_iff hx hy]
  rcases lt_trichotomy (rat x) (rat y) with hlt | heq | hgt
  · rw [if_pos hlt, compare_lt_iff_lt.2 hlt]
  · rw [if_neg heq.not_lt, if_neg heq.not_gt, if_pos heq, compare_eq_iff_eq.2 heq]
  · rw [if_neg hgt.not_gt, if_pos hgt, compare_gt_iff_gt.2 hgt]

/-- Two integers have the same nearest float. -/
def SameFloat (a b : Int) : Prop := rat (Float.ofInt a) = rat (Float.ofInt b)

instance (a b : Int) : Decidable (SameFloat a b) := inferInstanceAs (Decidable (_ = _))

lemma sameFloat_comm : SameFloat a b ↔ SameFloat b a := eq_comm

lemma rat_ofInt_mono (h : a ≤ b) : rat (Float.ofInt a) ≤ rat (Float.ofInt b) := by
  rcases h.lt_or_eq with hlt | rfl
  · exact (isRounded_ofInt a).mono (isRounded_ofInt b) (by exact_mod_cast hlt)
  · exact le_rfl

/-- The floats are in order if the integers are and do not have the same. -/
lemma rat_ofInt_lt_iff : rat (Float.ofInt a) < rat (Float.ofInt b) ↔ a < b ∧ ¬SameFloat a b := by
  constructor
  · intro hlt
    refine ⟨?_, hlt.ne⟩
    by_contra hle
    exact absurd (rat_ofInt_mono (not_lt.1 hle)) hlt.not_ge
  · rintro ⟨hlt, hne⟩
    exact (rat_ofInt_mono hlt.le).lt_of_ne hne

lemma rat_ofInt_le_iff : rat (Float.ofInt a) ≤ rat (Float.ofInt b) ↔ a ≤ b ∨ SameFloat a b := by
  constructor
  · intro hle
    rcases hle.lt_or_eq with hlt | heq
    · exact .inl (rat_ofInt_lt_iff.1 hlt).1.le
    · exact .inr heq
  · rintro (hle | heq)
    · exact rat_ofInt_mono hle
    · exact heq.le

lemma Literal.compare?_int (a b : Int) :
    (Literal.number (.int b)).compare? (.number (.int a)) =
      some (compare (rat (Float.ofInt a)) (rat (Float.ofInt b))) :=
  compareNumbers?_eq (isRounded_ofInt a).isNumeric (isRounded_ofInt b).isNumeric

/-- Each of the operators on the order of numbers tests the order of the floats, which is that of
the integers except for those that have the same. -/
lemma Operator.test_int (now : Instant) (a b : Int) :
    let test (o : Operator) : Verdict := o.test now (.number (.int b)) (.number (.int a))
    test .greater = .ok (decide (b < a ∧ ¬SameFloat a b)) ∧
      test .less = .ok (decide (a < b ∧ ¬SameFloat a b)) ∧
      test .atLeast = .ok (decide (b ≤ a ∨ SameFloat a b)) ∧
      test .atMost = .ok (decide (a ≤ b ∨ SameFloat a b)) := by
  intro test
  have hsymm : SameFloat a b ↔ SameFloat b a := sameFloat_comm
  simp only [test, Operator.test, Literal.compare?_int, Except.ok.injEq]
  refine ⟨?_, ?_, ?_, ?_⟩ <;> rw [Bool.eq_iff_iff]
  · simp [compare_gt_iff_gt, rat_ofInt_lt_iff, hsymm]
  · simp [compare_lt_iff_lt, rat_ofInt_lt_iff]
  · simp [compare_lt_iff_lt, rat_ofInt_le_iff, hsymm]
  · simp [compare_gt_iff_gt, rat_ofInt_le_iff]

end Order

/-! ### Equality -/

namespace Text

/-- Folding leaves the character alone, wherever it stands. -/
def IsPlain (c : Char) : Prop := capitals c = [c] ∧ lower c = [c] ∧ c ≠ 'Σ'

instance (c : Char) : Decidable (IsPlain c) := inferInstanceAs (Decidable (_ ∧ _ ∧ _))

lemma lowerAfter_of_isPlain {before cs : List Char} (h : ∀ c ∈ cs, IsPlain c) :
    lowerAfter before cs = cs := by
  induction cs generalizing before with
  | nil => rfl
  | cons c rest ih =>
    obtain ⟨⟨-, hlower, hsigma⟩, hrest⟩ := List.forall_mem_cons.1 h
    rw [lowerAfter, if_neg hsigma, hlower, ih hrest, List.singleton_append]

lemma foldList_of_isPlain {cs : List Char} (h : ∀ c ∈ cs, IsPlain c) : foldList cs = cs := by
  rw [foldList_eq, List.flatMap_congr fun c hc => (h c hc).1, List.flatMap_singleton', lowerText,
    lowerAfter_of_isPlain h]

lemma isPlain_of_isDigit {c : Char} (h : c.isDigit = true) : IsPlain c := by
  have hall : ∀ n ∈ List.range' 48 10, IsPlain (Char.ofNat n) := by decide +kernel
  have hrange := Decimal.toNat_of_isDigit h
  rw [← Char.ofNat_toNat c]
  exact hall c.toNat (List.mem_range'_1.2 (by omega))

lemma isPlain_minus : IsPlain '-' := by decide +kernel

end Text

/-- Integers are equal as texts if they are the same. -/
lemma Literal.equals_int (a b : Int) :
    (Literal.number (.int b)).equals (.number (.int a)) = decide (a = b) := by
  -- digits and signs are folded to themselves
  have hfold : ∀ k : Int, Text.fold (Json.number (.int k)).compact =
      String.ofList (Number.writeInt k) := by
    intro k
    have htext : (Json.number (.int k)).compact.toList = Number.writeInt k :=
      String.toList_ofList
    rw [Text.fold, htext, Text.foldList_of_isPlain fun c hc => ?_]
    rcases Number.mem_writeInt hc with rfl | hdigit
    · exact Text.isPlain_minus
    · exact Text.isPlain_of_isDigit hdigit
  have hnull : (Json.number (.int a)).isNull = false := rfl
  simp only [equals, hnull, Bool.not_false, Bool.true_and, display, Json.text, hfold]
  rw [Bool.eq_iff_iff, beq_iff_eq, decide_eq_true_eq, String.ofList_inj]
  constructor
  · exact fun h => (Number.writeInt_inj h).symm
  · rintro rfl
    rfl

/-! ### Conditions on integers -/

lemma natAbs_le_of_fits {k : Int} (h : Json.minInt ≤ k ∧ k ≤ Json.maxInt) : k.natAbs ≤ 2 ^ 64 := by
  have hmin : Json.minInt = -2 ^ 63 := rfl
  have hmax : Json.maxInt = 2 ^ 64 - 1 := rfl
  omega

lemma sameFloat_iff {a b : Int} (ha : a.natAbs ≤ 2 ^ 64) (hb : b.natAbs ≤ 2 ^ 64)
    (ha' : IsNumber a) (hb' : IsNumber b) : SameFloat a b ↔ a = b := by
  rw [SameFloat, rat_ofInt ha ha', rat_ofInt hb hb', Int.cast_inj]

/-- A condition on one integer is tested on another: by the order of the two, if they have different
nearest floats, and by equality. Integers that are values of floats have different ones unless they
are the same, and integers of up to 53 bits are. -/
theorem integers_compared (now : Instant) (c : Condition) (properties : Dict Json) {a b : Int}
    (hliteral : c.literal = some (.number (.int b)))
    (hvalue : properties.get? c.key = some (.number (.int a)))
    (ha : Json.minInt ≤ a ∧ a ≤ Json.maxInt) (hb : Json.minInt ≤ b ∧ b ≤ Json.maxInt) :
    (c.operator = .greater → c.test now properties = .ok (decide (b < a ∧ ¬SameFloat a b))) ∧
    (c.operator = .less → c.test now properties = .ok (decide (a < b ∧ ¬SameFloat a b))) ∧
    (c.operator = .atLeast → c.test now properties = .ok (decide (b ≤ a ∨ SameFloat a b))) ∧
    (c.operator = .atMost → c.test now properties = .ok (decide (a ≤ b ∨ SameFloat a b))) ∧
    (c.operator = .exact → c.test now properties = .ok (decide (a = b))) ∧
    (IsNearest a (rat (Float.ofInt a)) ∧ IsNearest b (rat (Float.ofInt b))) ∧
    (IsNumber a → IsNumber b → (SameFloat a b ↔ a = b)) ∧
    (a.natAbs ≤ 2 ^ 53 → IsNumber a) ∧ (b.natAbs ≤ 2 ^ 53 → IsNumber b) := by
  have ha64 := natAbs_le_of_fits ha
  have hb64 := natAbs_le_of_fits hb
  have hnull : (Json.number (.int a)).isNull = false := rfl
  have htest : ∀ o : Operator, o ≠ .isNotSet → o ≠ .isSet → c.operator = o →
      c.test now properties = o.test now (.number (.int b)) (.number (.int a)) := by
    rintro o hnotSet hset rfl
    simp [Condition.test, hvalue, hnull, hnotSet, hset, hliteral]
  obtain ⟨hgreater, hless, hatLeast, hatMost⟩ := Operator.test_int now a b
  have hexact : Operator.test now .exact (.number (.int b)) (.number (.int a)) =
      .ok (decide (a = b)) := by
    rw [Operator.test, Literal.equals_int]
  refine ⟨fun ho => ?_, fun ho => ?_, fun ho => ?_, fun ho => ?_, fun ho => ?_,
    ⟨isNearest_ofInt ha64, isNearest_ofInt hb64⟩, sameFloat_iff ha64 hb64,
    isNumber_of_natAbs_le, isNumber_of_natAbs_le⟩
  · exact (htest _ (by decide) (by decide) ho).trans hgreater
  · exact (htest _ (by decide) (by decide) ho).trans hless
  · exact (htest _ (by decide) (by decide) ho).trans hatLeast
  · exact (htest _ (by decide) (by decide) ho).trans hatMost
  · exact (htest _ (by decide) (by decide) ho).trans hexact

/-- A condition on a number of things. -/
def Condition.onCount (operator : Operator) (n : Int) : Condition where
  key := "count"
  literal := some (.number (.int n))
  givenOperator := some operator
  subject := .person
  negation := none
  dependencyChain := none
  groupTypeIndex := none

/-- Four is more than three, and not the same. -/
theorem integers_compared_small :
    let properties : Dict Json := .ofList [("count", .number (.int 4))]
    (Condition.onCount .greater 3).test ⟨0, 0⟩ properties = .ok true ∧
      (Condition.onCount .exact 3).test ⟨0, 0⟩ properties = .ok false ∧ ¬SameFloat 4 3 := by
  intro properties
  obtain ⟨hgreater, -, -, -, -, -, hsame, hfour, hthree⟩ := integers_compared ⟨0, 0⟩
    (.onCount .greater 3) properties (a := 4) rfl rfl (by decide) (by decide)
  obtain ⟨-, -, -, -, hexact, -⟩ := integers_compared ⟨0, 0⟩
    (.onCount .exact 3) properties (a := 4) rfl rfl (by decide) (by decide)
  have hdistinct : ¬SameFloat 4 3 := by
    rw [hsame (hfour (by decide)) (hthree (by decide))]
    decide
  refine ⟨(hgreater rfl).trans (congrArg _ ?_), (hexact rfl).trans (by decide), hdistinct⟩
  exact decide_eq_true ⟨by decide, hdistinct⟩

/-- An integer of 54 bits is greater than the one before it, but a condition finds it neither
greater nor less nor the same. -/
theorem integers_not_told_apart :
    let properties : Dict Json := .ofList [("count", .number (.int 9007199254740993))]
    (9007199254740992 : Int) < 9007199254740993 ∧
      (Condition.onCount .greater 9007199254740992).test ⟨0, 0⟩ properties = .ok false ∧
      (Condition.onCount .less 9007199254740992).test ⟨0, 0⟩ properties = .ok false ∧
      (Condition.onCount .exact 9007199254740992).test ⟨0, 0⟩ properties = .ok false ∧
      (Condition.onCount .atMost 9007199254740992).test ⟨0, 0⟩ properties = .ok true := by
  decide +kernel

end FeatureFlags
