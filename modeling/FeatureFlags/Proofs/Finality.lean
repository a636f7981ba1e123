import FeatureFlags.Proofs.Transparency
import FeatureFlags.Proofs.ConclusiveOutcomes

/-!
# Conclusive answers

More properties decide more conditions, and turn no decision around. What follows for a flag needs
a proviso. A group that is undecided is passed over, and once it is decided it may be the first to
let the identity in. So the answer for a flag is final unless such a group shows another variant
than the one that has let the identity in, for the flag itself or for one that it leads to.
-/

namespace FeatureFlags

namespace Rules

variable {rules : Rules} {who : Identity}

/-- A condition keeps its verdict if the flags that it reaches agree on the variant they show. -/
lemma judgeLeafAfresh_upheld (hcohorts : rules.CohortsAcyclic) (hflags : rules.FlagsAcyclic)
    (hkeys : rules.ListOwnKeys) {properties : Dict Json}
    (hproperties : properties.Extends who.properties) {c : Condition} (hkey : c.ListsOwnKey)
    (hagree : ∀ key f, rules.Reaches c key → rules.flags.get? key = some f →
      AgreeOnVariant (rules.judgeGroupAfresh who f)
        (rules.judgeGroupAfresh { who with properties } f) (f.variantBy who.key) f.orderedGroups) :
    Upheld (rules.judgeLeafAfresh who c ()).1
      (rules.judgeLeafAfresh { who with properties } c ()).1 := by
  induction hw : rules.weight c using Nat.strong_induction_on generalizing c with
  | _ weight ih =>
    subst hw
    rw [judgeLeafAfresh_eq hcohorts hflags hkeys _ hkey,
      judgeLeafAfresh_eq hcohorts hflags hkeys _ hkey]
    refine judgeLeafBy_upheld hproperties (fun _ _ => id) c
      (fun hc tree htree d hd _ _ => ?_) () () (fun hc => ?_)
    · exact ih _ (hcohorts.weight_lt hc htree hd) (hkeys.cohort _ tree htree d hd)
        (fun key f hreach => hagree key f (hreach.of_cohort hc htree hd)) rfl
    · refine Condition.judgeDependency_upheld hkey hc fun chain hchain key hmem => ?_
      refine askAfresh_upheld (fun f hf d hd => ?_) fun f hf => ?_
      · exact ih _ (hflags.weight_lt hc hchain hmem hf hd) (hkeys.flag key f hf d hd)
          (fun k g hreach => hagree k g (hreach.of_chain hc hchain hmem hf hd)) rfl
      · exact hagree key f (reaches_of_mem_chain hc hchain hmem) hf

/-- Every group of a flag that an identity is let in by once it has other properties, but that was
undecided and tried before the one that had let it in, shows the same variant. -/
def AgreesOnVariant (rules : Rules) (who : Identity) (properties : Dict Json) (f : Flag) : Prop :=
  AgreeOnVariant (fun g => (rules.judgeGroup who f g ∅).1)
    (fun g => (rules.judgeGroup { who with properties } f g ∅).1) (f.variantBy who.key)
    f.orderedGroups

lemma AgreesOnVariant.afresh (hcohorts : rules.CohortsAcyclic) (hflags : rules.FlagsAcyclic)
    (hkeys : rules.ListOwnKeys) {f : Flag} (hf : ∀ c ∈ f.conditions, c.ListsOwnKey)
    {properties : Dict Json} (h : rules.AgreesOnVariant who properties f) :
    AgreeOnVariant (rules.judgeGroupAfresh who f)
      (rules.judgeGroupAfresh { who with properties } f) (f.variantBy who.key) f.orderedGroups := by
  have hgroup : ∀ who, ∀ g ∈ f.orderedGroups,
      (rules.judgeGroup who f g.2 ∅).1.toOption = (rules.judgeGroupAfresh who f g.2).toOption := by
    intro who g hg
    have hmem : g.2 ∈ f.groups := Flag.mem_groups_of_mem_orderedGroups hg
    exact judgeGroup_learns hcohorts hflags hkeys f
      (fun c hc => hf c (Flag.mem_conditions_of_mem_group hmem hc)) Memo.coherentAt_empty
  exact AgreeOnVariant.congr (hgroup who) (hgroup _) h

/-- Groups that all show one variant agree, such as the groups of a flag of which none asks for a
variant. -/
lemma AgreesOnVariant.of_forall {f : Flag} (variant : Option String)
    (h : ∀ g ∈ f.groups, f.variantBy who.key g = variant) (properties : Dict Json) :
    rules.AgreesOnVariant who properties f := by
  intro earlier g hg k hk _ _
  obtain ⟨later, hsplit⟩ := hg.split
  have hmem : ∀ j ∈ earlier ++ g :: later, f.variantBy who.key j.2 = variant := fun j hj =>
    h j.2 (Flag.mem_groups_of_mem_orderedGroups (hsplit ▸ hj))
  rw [hmem k (List.mem_append_left _ hk), hmem g (by simp)]

/-- A conclusive answer is final, if no group was passed over that now shows another variant. When
properties are added, the value of a flag stays what it was. -/
theorem evaluate_final (hcohorts : rules.CohortsAcyclic) (hflags : rules.FlagsAcyclic)
    (hkeys : rules.ListOwnKeys) {properties : Dict Json}
    (hproperties : properties.Extends who.properties) {f : Flag}
    (hf : ∀ c ∈ f.conditions, c.ListsOwnKey) (hagree : rules.AgreesOnVariant who properties f)
    (hreach : ∀ c ∈ f.conditions, ∀ key g, rules.Reaches c key → rules.flags.get? key = some g →
      rules.AgreesOnVariant who properties g)
    {m : FlagMatch} (h : (rules.evaluate who f ∅).1 = .ok m) :
    ∃ m', (rules.evaluate { who with properties } f ∅).1 = .ok m' ∧ m'.value = m.value := by
  have hplain : ∀ who,
      (rules.evaluate who f ∅).1.toOption = (rules.evaluateAfresh who f).toOption :=
    fun _ => (evaluate_learns hcohorts hflags hkeys hf Memo.coherentAt_empty).1
  -- decisions are upheld where no memo is kept, and a memo that is right changes none
  have hupheld := f.evaluate_upheld (fun c hc => judgeLeafAfresh_upheld hcohorts hflags hkeys
    hproperties (hf c hc) fun key g hk hg =>
      (hreach c hc key g hk hg).afresh hcohorts hflags hkeys (hkeys.flag key g hg))
    (hagree.afresh hcohorts hflags hkeys hf)
  have hafresh : rules.evaluateAfresh who f = .ok m := ok_of_toOption_eq (hplain who) h
  have hvalue : (rules.evaluateAfresh { who with properties } f).map FlagMatch.value =
      .ok m.value :=
    hupheld m.value (congrArg (Except.map FlagMatch.value) hafresh)
  cases hm' : rules.evaluateAfresh { who with properties } f with
  | error e =>
    rw [hm'] at hvalue
    cases hvalue
  | ok m' =>
    rw [hm'] at hvalue
    exact ⟨m', ok_of_toOption_eq (hplain _).symm hm', Except.ok.inj hvalue⟩

end Rules

/-- A group that is undecided without a property lets the identity in with it, and shows the variant
that a later one has shown. -/
theorem evaluate_final_diamond :
    let who : Identity := ⟨"someone", .ofList [("plan", .string "pro")], ⟨0, 0⟩⟩
    let properties : Dict Json := .ofList [("plan", .string "pro"), ("team", .string "red")]
    let top : Flag := ⟨1, none, "top", ⟨[
      ⟨some [.onFlag "right" ["right"], .onProperty "team"], none, some "gold"⟩,
      ⟨some [.onFlag "left" ["left"]], none, some "gold"⟩],
      some [⟨"gold", none, 100⟩], none, none⟩, false, true, false, none⟩
    properties.Extends who.properties ∧ diamond.AgreesOnVariant who properties top ∧
      (diamond.evaluate who top ∅).1 = .ok (.on top (some "gold") 1) ∧
      ∃ m, (diamond.evaluate { who with properties } top ∅).1 = .ok m ∧
        m.value = .variant "gold" := by
  intro who properties top
  have hproperties : properties.Extends who.properties := by
    intro key value hvalue
    have hmem := Dict.mem_entries_of_get? hvalue
    obtain ⟨rfl, rfl⟩ := Prod.mk.inj (List.mem_singleton.1 hmem)
    rfl
  have htop : ∀ c ∈ top.conditions, c.ListsOwnKey := by
    intro c hc _ hl
    have hnone : ∀ c ∈ top.conditions, c.literal = none := by decide
    exact absurd (hnone c hc) hl
  have hagree : diamond.AgreesOnVariant who properties top := by
    refine Rules.AgreesOnVariant.of_forall (some "gold") (fun g hg => ?_) properties
    rcases List.mem_pair.1 hg with rfl | rfl
    · rfl
    · rfl
  have hdiamond : ∀ key f, diamond.flags.get? key = some f →
      diamond.AgreesOnVariant who properties f := by
    intro key f hf
    refine Rules.AgreesOnVariant.of_forall (f.drawVariant who.key) (fun g hg => ?_) properties
    rcases diamond_flags hf with ⟨-, rfl⟩ | ⟨-, rfl⟩ | ⟨-, rfl⟩ <;>
      rw [List.mem_singleton.1 hg] <;> rfl
  have hrun : (diamond.evaluate who top ∅).1 = .ok (.on top (some "gold") 1) := by decide
  exact ⟨hproperties, hagree, hrun, Rules.evaluate_final diamond_cohortsAcyclic
    diamond_flagsAcyclic diamond_listOwnKeys hproperties htop hagree
    (fun _ _ key f _ hf => hdiamond key f hf) hrun⟩

/-- A flag that is gold for those who have a plan, and grey for everyone else. -/
def palette : Flag := ⟨1, none, "palette", ⟨[
    ⟨some [.onProperty "plan"], none, some "gold"⟩, ⟨none, none, some "grey"⟩],
    some [⟨"gold", none, 50⟩, ⟨"grey", none, 50⟩], none, none⟩, false, true, false, none⟩

/-- An answer need not be final if a group was passed over that would show another variant. As long
as nothing is known about the plan, the flag is grey. -/
theorem evaluate_palette_not_final :
    ¬∀ (rules : Rules) (who : Identity) (properties : Dict Json) (f : Flag) (m : FlagMatch),
      rules.CohortsAcyclic → rules.FlagsAcyclic → rules.ListOwnKeys →
      (∀ c ∈ f.conditions, c.ListsOwnKey) → properties.Extends who.properties →
      (rules.evaluate who f ∅).1 = .ok m →
      ∃ m', (rules.evaluate { who with properties } f ∅).1 = .ok m' ∧ m'.value = m.value := by
  intro h
  have hkeys : ∀ c ∈ palette.conditions, c.ListsOwnKey := by
    intro c hc hs _
    have hperson : ∀ c ∈ palette.conditions, c.subject = .person := by decide
    cases hs.symm.trans (hperson c hc)
  obtain ⟨m', hm', hvalue⟩ := h diamond ⟨"someone", ∅, ⟨0, 0⟩⟩ (.ofList [("plan", .string "pro")])
    palette (.on palette (some "grey") 1) diamond_cohortsAcyclic diamond_flagsAcyclic
    diamond_listOwnKeys hkeys (fun _ _ => nofun) (by decide)
  have hgold : (diamond.evaluate ⟨"someone", .ofList [("plan", .string "pro")], ⟨0, 0⟩⟩ palette ∅).1
      = .ok (.on palette (some "gold") 0) := by decide
  obtain rfl := Except.ok.inj (hgold.symm.trans hm')
  revert hvalue
  decide

end FeatureFlags
