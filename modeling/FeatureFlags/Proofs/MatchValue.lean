import FeatureFlags.Flag.Coding
import FeatureFlags.Proofs.Inversion
import FeatureFlags.Proofs.SharedIdentity
import FeatureFlags.Remote.ResolvedFlag

/-!
# The value of a match

The value of a match is used in three places: other flags that depend on it ask for it, the caller
gets it, and the payload is filed under it. A variant may have an empty key. Other flags see a
value with this key, which is off, and the payload is looked up under it, while the caller gets the
value of a flag that is on without a variant.

Main statement: how these values go together in the outcome of every evaluation.
-/

namespace FeatureFlags

variable {σ : Type}

/-! ### Variants -/

/-- Intervals are for the keys that they are made of. -/
lemma exists_mem_of_mem_intervalsFrom {α : Type} [Add α] {start : α} {shares : List (String × α)}
    {i : DrawInterval α} (h : i ∈ intervalsFrom start shares) :
    ∃ share, (i.key, share) ∈ shares := by
  induction shares generalizing start with
  | nil => cases h
  | cons share rest ih =>
    rcases List.mem_cons.1 h with rfl | h
    · exact ⟨share.2, List.mem_cons_self⟩
    · obtain ⟨share', hmem⟩ := ih h
      exact ⟨share', List.mem_cons_of_mem _ hmem⟩

namespace Flag

variable {f : Flag} {identity : String}

/-- A variant that is drawn is one of the flag. -/
lemma hasVariant_of_drawVariant {key : String} (h : f.drawVariant identity = some key) :
    f.hasVariant key = true := by
  obtain ⟨i, hi, rfl⟩ := Option.map_eq_some_iff.1 h
  obtain ⟨share, hshare⟩ := exists_mem_of_mem_intervalsFrom (List.mem_of_find?_eq_some hi)
  obtain ⟨v, hv, heq⟩ := List.mem_map.1 hshare
  exact List.any_eq_true.2 ⟨v, hv, decide_eq_true (congrArg Prod.fst heq)⟩

/-- The variant that a group gives is one of the flag, whether the group asks for it or it is
drawn. -/
lemma hasVariant_of_variantBy {g : ConditionGroup} {key : String}
    (h : f.variantBy identity g = some key) : f.hasVariant key = true := by
  cases hg : g.variant with
  | none =>
    rw [variantBy, hg] at h
    exact hasVariant_of_drawVariant h
  | some key' =>
    rw [variantBy, hg] at h
    by_cases hhas : f.hasVariant key' = true
    · obtain rfl : key' = key := by simpa [hhas] using h
      exact hhas
    · exact hasVariant_of_drawVariant (by simpa [hhas] using h)

end Flag

/-! ### Values -/

section Values

variable {f : Flag} {variant : Option String} {i : Nat}

/-- Unless the key of the variant is empty, the value of a match is on, and callers see it. -/
lemma FlagMatch.value_on_of_ne (h : variant ≠ some "") :
    (on f variant i).value.isTruthy = true ∧
      (ResolvedFlag.ofMatch f (on f variant i)).value = (on f variant i).value := by
  cases variant with
  | none => exact ⟨rfl, rfl⟩
  | some key =>
    have hkey : key.isEmpty = false := by simpa using h
    simp [on, value, FlagValue.isTruthy, ResolvedFlag.ofMatch, ResolvedFlag.value, hkey]

end Values

lemma askKnown_of_settle {settle : String → σ → Except Undecided Unit × σ} {known : σ → Memo}
    {key : String} {s s' : σ} {value : FlagValue} (hkey : (known s).contains key = false)
    (hsettle : settle key s = (.ok (), s')) (hvalue : (known s').value? key = some value) :
    askKnown settle known key s = (.ok value, s') := by
  simp [askKnown, hkey, hsettle, hvalue]

namespace Rules

variable {rules : Rules} {who : Identity} {f : Flag} {memo : Memo} {m : FlagMatch}

/-- Those who ask for a flag are told a value, and the value is settled. -/
def Tells (rules : Rules) (who : Identity) (memo : Memo) (key : String) (value : FlagValue) :
    Prop :=
  ∃ after, rules.ask who (rules.judgeLeaf who) key memo = (.ok value, after) ∧
    after.get? key = some (.settled value)

/-- The value of a match is what those are told who ask for the flag. -/
lemma tells_of_evaluate {key : String} (hf : rules.flags.get? key = some f)
    (hkey : memo.contains key = false)
    (h : (rules.evaluate who f (memo.insert key .inconclusive)).1 = .ok m) :
    rules.Tells who memo key m.value := by
  have hsettle : ∃ t : Memo, settle (rules.judgeLeaf who) rules.flags who.key key memo =
      (.ok (), t.insert key (.settled m.value)) := by
    -- an inactive flag is settled without being evaluated, and evaluates to the same
    cases ha : f.isActive with
    | false =>
      rw [evaluate_of_disabled (.inl ha)] at h
      obtain rfl := Except.ok.inj h
      exact ⟨memo, by simp [settle, hf, ha, FlagMatch.value, FlagMatch.off]⟩
    | true =>
      rw [evaluate] at h
      simp only [settle, hf, ha, Bool.not_true, Bool.false_eq_true, if_false]
      generalize f.evaluate (rules.judgeLeaf who) who.key (memo.insert key .inconclusive) = x at h ⊢
      obtain ⟨v, t⟩ := x
      obtain rfl : v = .ok m := h
      exact ⟨t, rfl⟩
  obtain ⟨t, hsettle⟩ := hsettle
  exact ⟨_, askKnown_of_settle hkey hsettle (by simp [Memo.value?]), t.get?_insert_self key _⟩

/-- A match selects the payload by its value, and those who ask for the flag are told this value.
Unless the key of the variant is empty, the value is on, and callers see the same. With an empty
key, which has to be among those of the flag, it is off for other flags and on for callers. What is
no match is off for all, and has neither variant nor payload. -/
theorem value_of_evaluate (h : (rules.evaluate who f memo).1 = .ok m) :
    (m.isMatch = true → m.payload = f.payload? m.value ∧
      (m.variant ≠ some "" →
        m.value.isTruthy = true ∧ (ResolvedFlag.ofMatch f m).value = m.value) ∧
      (m.variant = some "" → f.hasVariant "" = true ∧ m.value = .variant "" ∧
        m.value.isTruthy = false ∧ (ResolvedFlag.ofMatch f m).value = .boolean true)) ∧
    (m.isMatch = false → m.value = .boolean false ∧
      (ResolvedFlag.ofMatch f m).value = .boolean false ∧ m.variant = none ∧ m.payload = none) ∧
    ∀ (key : String) (before : Memo), rules.flags.get? key = some f →
      before.contains key = false → memo = before.insert key .inconclusive →
      rules.Tells who before key m.value := by
  refine ⟨fun hm => ?_, fun hm => ?_, fun key before hf hkey hmemo =>
    tells_of_evaluate hf hkey (hmemo ▸ h)⟩
  · rcases Flag.eq_on_or_off_of_evaluate h with ⟨g, -, rfl⟩ | ⟨reason, i, rfl⟩
    · refine ⟨rfl, FlagMatch.value_on_of_ne, fun hvariant => ?_⟩
      have hempty : f.variantBy who.key g.2 = some "" := hvariant
      rw [hempty]
      exact ⟨Flag.hasVariant_of_variantBy hempty, rfl, rfl, rfl⟩
    · cases hm
  · rcases Flag.eq_on_or_off_of_evaluate h with ⟨g, -, rfl⟩ | ⟨reason, i, rfl⟩
    · cases hm
    · exact ⟨rfl, rfl, rfl, rfl⟩

end Rules

/-! ### A variant with an empty key -/

/-- A flag that shows one variant to everyone. -/
def Flag.ofVariant (key variant : String) : Flag :=
  { Flag.ofGroups key [] with
    targeting := ⟨[⟨none, none, some variant⟩], some [⟨variant, none, 100⟩], none, none⟩ }

/-- A variant is seen by those who ask and by the caller. -/
theorem value_of_evaluate_blue :
    let paint : Flag := .ofVariant "paint" "blue"
    let rules : Rules := ⟨.ofList [("paint", paint)], ∅⟩
    let who : Identity := ⟨"someone", ∅, ⟨0, 0⟩⟩
    let memo : Memo := (∅ : Memo).insert "paint" .inconclusive
    ∃ m, (rules.evaluate who paint memo).1 = .ok m ∧ m.isMatch = true ∧
      (ResolvedFlag.ofMatch paint m).value = .variant "blue" ∧
      rules.Tells who ∅ "paint" (.variant "blue") := by
  intro paint rules who memo
  have hm : (rules.evaluate who paint memo).1 = .ok (.on paint (some "blue") 0) := rfl
  obtain ⟨hon, -, hasked⟩ := Rules.value_of_evaluate hm
  obtain ⟨-, hvalue, -⟩ := hon rfl
  exact ⟨_, hm, rfl, (hvalue (by decide)).2, hasked "paint" ∅ rfl rfl rfl⟩

/-- A flag with a variant of an empty key, as it is given. -/
def emptyKeyFlag : Json := (Flag.ofVariant "nameless" "").encode

/-- A variant with an empty key is off for other flags, and on for the caller. -/
theorem empty_variant_key_seen_both_ways :
    ¬∀ (j : Json) (f : Flag) (rules : Rules) (who : Identity) (memo : Memo) (m : FlagMatch),
      Flag.decode? j = some f → (rules.evaluate who f memo).1 = .ok m → m.isMatch = true →
      m.value.isTruthy = true ∧ (ResolvedFlag.ofMatch f m).value = m.value := by
  intro h
  have hon := h emptyKeyFlag (.ofVariant "nameless" "") ⟨∅, ∅⟩ ⟨"someone", ∅, ⟨0, 0⟩⟩ ∅
    (.on (.ofVariant "nameless" "") (some "") 0) rfl rfl rfl
  cases hon.1

end FeatureFlags
