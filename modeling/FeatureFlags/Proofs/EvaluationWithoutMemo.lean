import FeatureFlags.Proofs.References

/-!
# Evaluating afresh

The same rules without a memory: every flag of a chain is evaluated afresh, and so is a flag whose
value is compared with an expected one. Where flags lead back to themselves this does not end, so
leaves are refused at the same depth as elsewhere. Where neither flags nor cohorts do, the bound is
not reached, and judging a leaf satisfies the equation of its recursion.
-/

namespace FeatureFlags

/-- Ask for the value of a flag by evaluating it. -/
def askAfresh (leaf : LeafJudge Unit) (flags : Dict Flag) (identity key : String) (s : Unit) :
    Except Undecided FlagValue × Unit :=
  match flags.get? key with
  | none => (.error (.missingDependency key), s)
  | some f =>
    if !f.isActive then (.ok (.boolean false), s)
    else
      match f.evaluate leaf identity s with
      | (.ok m, s) => (.ok m.value, s)
      | (.error _, s) => (.error (.dependencyInconclusive key), s)

/-- If a condition on a flag expects a value, its chain names the flag or is empty. -/
def Condition.ListsOwnKey (c : Condition) : Prop :=
  c.subject = .flag → c.literal ≠ none →
    ∀ chain, c.dependencyChain = some chain → chain ≠ [] → c.key ∈ chain

namespace Rules

variable (rules : Rules) (who : Identity)

/-- Judge a condition on a flag by how the conditions of flags are judged. -/
def judgeDependencyAfreshBy (leaf : LeafJudge Unit) : LeafJudge Unit :=
  let ask := askAfresh leaf rules.flags who.key
  Condition.judgeDependency ask fun s key => (ask key s).1.toOption

/-- Judge a leaf to which fewer than so many references lead. -/
def judgeLeafAfreshWithin : Nat → LeafJudge Unit :=
  rules.judgeLeafWithin who refuse (rules.judgeDependencyAfreshBy who)

/-- Judge a leaf. -/
def judgeLeafAfresh : LeafJudge Unit := rules.judgeLeafAfreshWithin who rules.referenceBound

/-- Judge a group of conditions of a flag. -/
def judgeGroupAfresh (f : Flag) (g : ConditionGroup) : Except Undecided MatchReason :=
  (g.judge (rules.judgeLeafAfresh who) f.key who.key ()).1

/-- Evaluate a flag. -/
def evaluateAfresh (f : Flag) : Except Undecided FlagMatch :=
  (f.evaluate (rules.judgeLeafAfresh who) who.key ()).1

/-- The value of the flag of a key, if it can be decided. -/
def valueAfresh (key : String) : Except Undecided FlagValue :=
  (askAfresh (rules.judgeLeafAfresh who) rules.flags who.key key ()).1

/-- All conditions of flags and cohorts that expect the value of a flag list it. -/
structure ListOwnKeys : Prop where
  flag : ∀ key f, rules.flags.get? key = some f → ∀ c ∈ f.conditions, c.ListsOwnKey
  cohort : ∀ id tree, rules.cohorts.get? id = some tree → ∀ c ∈ tree.conditions, c.ListsOwnKey

variable {rules who}

lemma valueAfresh_missing {key : String} (h : rules.flags.get? key = none) :
    rules.valueAfresh who key = .error (.missingDependency key) := by
  simp only [valueAfresh, askAfresh, h]

lemma valueAfresh_inactive {key : String} {f : Flag} (h : rules.flags.get? key = some f)
    (ha : f.isActive = false) : rules.valueAfresh who key = .ok (.boolean false) := by
  simp only [valueAfresh, askAfresh, h, ha]
  rfl

lemma valueAfresh_active {key : String} {f : Flag} (h : rules.flags.get? key = some f)
    (ha : f.isActive = true) :
    rules.valueAfresh who key = match rules.evaluateAfresh who f with
      | .ok m => .ok m.value
      | .error _ => .error (.dependencyInconclusive key) := by
  simp only [valueAfresh, askAfresh, h, ha, evaluateAfresh]
  generalize f.evaluate (rules.judgeLeafAfresh who) who.key () = x
  obtain ⟨e | m, s⟩ := x
  · rfl
  · rfl

lemma askAfresh_lockstep {leaf leaf' : LeafJudge Unit} {flags : Dict Flag} {key : String}
    (h : ∀ f, flags.get? key = some f → ∀ c ∈ f.conditions, ∀ s t : Unit, s = t →
      Lockstep Eq Eq (leaf c s) (leaf' c t)) (identity : String) {s t : Unit} (hst : s = t) :
    Lockstep Eq Eq (askAfresh leaf flags identity key s)
      (askAfresh leaf' flags identity key t) := by
  simp only [askAfresh]
  cases hf : flags.get? key with
  | none => exact .error rfl hst
  | some f =>
    simp only
    split
    · exact .ok hst
    · have hrun := f.evaluate_lockstep (fun _ => rfl) identity (h f hf) hst
      generalize f.evaluate leaf identity s = x at hrun ⊢
      generalize f.evaluate leaf' identity t = y at hrun ⊢
      cases hrun with
      | ok hst => exact .ok hst
      | error _ hst => exact .error rfl hst

lemma judgeLeafAfreshWithin_succ (bound : Nat) :
    rules.judgeLeafAfreshWithin who (bound + 1) =
      rules.judgeLeafBy who (rules.judgeLeafAfreshWithin who bound)
        (rules.judgeDependencyAfreshBy who (rules.judgeLeafAfreshWithin who bound)) := rfl

/-- Two bounds above the weight of a condition judge it alike. -/
lemma judgeLeafAfreshWithin_lockstep (hcohorts : rules.CohortsAcyclic)
    (hflags : rules.FlagsAcyclic) (hkeys : rules.ListOwnKeys) (who : Identity)
    {bound bound' : Nat} {c : Condition} (hkey : c.ListsOwnKey) (hb : rules.weight c < bound)
    (hb' : rules.weight c < bound') {s t : Unit} (hst : s = t) :
    Lockstep Eq Eq (rules.judgeLeafAfreshWithin who bound c s)
      (rules.judgeLeafAfreshWithin who bound' c t) := by
  induction bound generalizing bound' c s t with
  | zero => exact absurd hb (Nat.not_lt_zero _)
  | succ bound ih =>
    obtain ⟨bound', rfl⟩ := Nat.exists_eq_succ_of_ne_zero (Nat.ne_zero_of_lt hb')
    rw [judgeLeafAfreshWithin_succ, judgeLeafAfreshWithin_succ]
    refine rules.judgeLeafBy_lockstep (fun _ => rfl) who c (fun hc tree htree d hd s t hst => ?_)
      (fun hc => ?_) hst
    -- a condition of the cohort weighs less, and so does one of a flag that is listed
    · have hweight := hcohorts.weight_lt hc htree hd
      exact ih (hkeys.cohort _ tree htree d hd) (by omega) (by omega) hst
    · have hask : ∀ chain, c.dependencyChain = some chain → ∀ key ∈ chain, ∀ s t : Unit, s = t →
          Lockstep Eq Eq
            (askAfresh (rules.judgeLeafAfreshWithin who bound) rules.flags who.key key s)
            (askAfresh (rules.judgeLeafAfreshWithin who bound') rules.flags who.key key t) := by
        intro chain hchain key hk s t hst
        refine askAfresh_lockstep (fun f hf d hd s t hst => ?_) who.key hst
        have hweight := hflags.weight_lt hc hchain hk hf hd
        exact ih (hkeys.flag key f hf d hd) (by omega) (by omega) hst
      simp only [judgeDependencyAfreshBy]
      refine Condition.judgeDependency_lockstep (fun _ => rfl) hask
        (fun chain hchain hne hl s' t' _ hst => ?_) hst
      rw [(hask chain hchain c.key (hkey hc hl chain hchain hne) s' t' hst).outcome_eq]

/-- The equation of the recursion, in which no bound occurs. -/
theorem judgeLeafAfresh_eq (hcohorts : rules.CohortsAcyclic) (hflags : rules.FlagsAcyclic)
    (hkeys : rules.ListOwnKeys) (who : Identity) {c : Condition} (hkey : c.ListsOwnKey) (s : Unit) :
    rules.judgeLeafAfresh who c s = rules.judgeLeafBy who (rules.judgeLeafAfresh who)
      (rules.judgeDependencyAfreshBy who (rules.judgeLeafAfresh who)) c s := by
  have hweight := rules.weight_lt_referenceBound c
  have h := judgeLeafAfreshWithin_lockstep hcohorts hflags hkeys who hkey hweight
    (hweight.trans (Nat.lt_succ_self _)) (rfl : s = s)
  exact Prod.ext h.outcome_eq h.state

end Rules

end FeatureFlags
