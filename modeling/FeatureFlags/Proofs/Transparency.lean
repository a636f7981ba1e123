import FeatureFlags.Proofs.EvaluationWithoutMemo
import FeatureFlags.Proofs.Termination

/-!
# Remembering changes no answer

Where nothing leads back to where it came from, an evaluation that remembers flags gives the
answers of one that evaluates every flag afresh, and what it notes about a flag is what evaluating
the flag shows.

While a flag is settled it is noted as inconclusive, which may not be what evaluating it shows. So
a memo is not right about all flags all the time. It is right about the flags that the condition at
hand reaches, since none of them is being settled, and what is noted in the meantime is right.
-/

namespace FeatureFlags

open Relation

namespace Rules

variable (rules : Rules) (who : Identity)

/-- What there is to note about a flag once it has been evaluated. -/
def settlementAfresh (key : String) : Settlement :=
  match rules.valueAfresh who key with
  | .ok value => .settled value
  | .error _ => .inconclusive

end Rules

/-- A memo holds a value only where evaluating the flag shows it, and calls a flag inconclusive only
where evaluating it fails. -/
structure Memo.Coherent (rules : Rules) (who : Identity) (memo : Memo) : Prop where
  value_eq : ∀ key value, memo.get? key = some (.settled value) →
    rules.valueAfresh who key = .ok value
  fails : ∀ key, memo.get? key = some .inconclusive → ∃ e, rules.valueAfresh who key = .error e

/-- A memo is right about a flag, or knows nothing about it. -/
def Memo.CoherentAt (rules : Rules) (who : Identity) (memo : Memo) (key : String) : Prop :=
  ∀ s, memo.get? key = some s → s = rules.settlementAfresh who key

/-- A memo keeps what is known and gains what is right. -/
def Memo.Learns (rules : Rules) (who : Identity) (memo memo' : Memo) : Prop :=
  ∀ key, memo'.get? key = memo.get? key ∨
    memo.get? key = none ∧ memo'.get? key = some (rules.settlementAfresh who key)

namespace Memo

variable {rules : Rules} {who : Identity} {memo memo' memo'' : Memo} {key : String}

lemma coherent_iff : memo.Coherent rules who ↔ ∀ key, memo.CoherentAt rules who key := by
  constructor
  · intro h key s hs
    cases s with
    | inconclusive =>
      obtain ⟨e, he⟩ := h.fails key hs
      simp only [Rules.settlementAfresh, he]
    | settled value => simp only [Rules.settlementAfresh, h.value_eq key value hs]
  · intro h
    refine ⟨fun key value hs => ?_, fun key hs => ?_⟩
    · have heq := h key _ hs
      cases hv : rules.valueAfresh who key with
      | ok v => simp_all [Rules.settlementAfresh]
      | error e => simp [Rules.settlementAfresh, hv] at heq
    · have heq := h key _ hs
      cases hv : rules.valueAfresh who key with
      | ok v => simp [Rules.settlementAfresh, hv] at heq
      | error e => exact ⟨e, rfl⟩

lemma coherentAt_empty (key : String) : CoherentAt rules who ∅ key := fun _ => nofun

lemma Learns.refl (memo : Memo) : Learns rules who memo memo := fun _ => .inl rfl

lemma Learns.trans (h : Learns rules who memo memo') (h' : Learns rules who memo' memo'') :
    Learns rules who memo memo'' := by
  intro key
  rcases h' key with heq | ⟨hnone, hsome⟩
  · exact heq ▸ h key
  · rcases h key with heq | ⟨hnone', -⟩
    · exact .inr ⟨heq ▸ hnone, hsome⟩
    · exact .inr ⟨hnone', hsome⟩

lemma Learns.get?_eq (h : Learns rules who memo memo') {s : Settlement}
    (hs : memo.get? key = some s) : memo'.get? key = some s := by
  rcases h key with heq | ⟨hnone, -⟩
  · rw [heq, hs]
  · cases hs.symm.trans hnone

lemma Learns.coherentAt (h : Learns rules who memo memo') (hm : memo.CoherentAt rules who key) :
    memo'.CoherentAt rules who key := by
  intro s hs
  rcases h key with heq | ⟨-, hsome⟩
  · exact hm s (heq ▸ hs)
  · exact Option.some.inj (hs.symm.trans hsome)

/-- What is noted about a flag in the meantime does not matter, if it is right in the end. -/
lemma Learns.of_insert {s : Settlement} (h : Learns rules who (memo.insert key s) memo')
    (hkey : memo.get? key = none)
    (hright : memo''.get? key = some (rules.settlementAfresh who key))
    (helse : ∀ k, k ≠ key → memo''.get? k = memo'.get? k) : Learns rules who memo memo'' := by
  intro k
  by_cases hk : k = key
  · subst hk
    exact .inr ⟨hkey, hright⟩
  · simpa [helse k hk, Ne.symm hk] using h k

end Memo

/-! ### What is noted about a flag -/

section Settling

variable {rules : Rules} {who : Identity} {memo memo' memo'' : Memo} {key : String}

namespace Memo

lemma value?_eq (h : memo.get? key = some (rules.settlementAfresh who key)) :
    memo.value? key = (rules.valueAfresh who key).toOption := by
  simp only [value?, h, Rules.settlementAfresh]
  cases rules.valueAfresh who key with
  | ok value => rfl
  | error e => rfl

lemma Learns.of_settled {value : FlagValue}
    (h : Learns rules who (memo.insert key .inconclusive) memo')
    (hkey : memo.get? key = none) (hvalue : rules.valueAfresh who key = .ok value)
    (helse : ∀ k, k ≠ key → memo''.get? k = memo'.get? k) :
    (memo''.insert key (.settled value)).get? key = some (rules.settlementAfresh who key) ∧
      Learns rules who memo (memo''.insert key (.settled value)) := by
  have hright : (memo''.insert key (.settled value)).get? key =
      some (rules.settlementAfresh who key) := by
    rw [Dict.get?_insert_self, Rules.settlementAfresh, hvalue]
  refine ⟨hright, h.of_insert hkey hright fun k hk => ?_⟩
  rw [Dict.get?_insert, if_neg hk.symm, helse k hk]

lemma Learns.of_failed {e : Undecided} (h : Learns rules who (memo.insert key .inconclusive) memo')
    (hkey : memo.get? key = none) (hvalue : rules.valueAfresh who key = .error e) :
    memo'.get? key = some (rules.settlementAfresh who key) ∧ Learns rules who memo memo' := by
  have hright : memo'.get? key = some (rules.settlementAfresh who key) := by
    rw [h.get?_eq (Dict.get?_insert_self _ _ _), Rules.settlementAfresh, hvalue]
  exact ⟨hright, h.of_insert hkey hright fun _ _ => rfl⟩

end Memo

/-- A condition is judged as it is afresh, from every memo that has learned from a start, and such
is the memo left behind. -/
def Rules.JudgedAfresh (rules : Rules) (who : Identity) (start : Memo) (c : Condition) : Prop :=
  ∀ (memo : Memo) (t : Unit), Memo.Learns rules who start memo →
    Lockstep AnyReason (fun memo _ => Memo.Learns rules who start memo)
      (rules.judgeLeaf who c memo) (rules.judgeLeafAfresh who c t)

/-- Settling a flag that nothing is known about notes what evaluating it shows, if its conditions
are judged as they are afresh while it is noted as inconclusive. -/
lemma settle_learns (hkey : memo.get? key = none)
    (h : ∀ f, rules.flags.get? key = some f → ∀ c ∈ f.conditions,
      rules.JudgedAfresh who (memo.insert key .inconclusive) c) :
    let run := settle (rules.judgeLeaf who) rules.flags who.key key memo
    (∀ e, run.1 = .error e → (rules.valueAfresh who key).toOption = none) ∧
      run.2.get? key = some (rules.settlementAfresh who key) ∧
      Memo.Learns rules who memo run.2 := by
  have hstart : Memo.Learns rules who (memo.insert key .inconclusive) _ := .refl _
  intro run
  cases hf : rules.flags.get? key with
  | none =>
    have hv : rules.valueAfresh who key = _ := Rules.valueAfresh_missing hf
    simp only [run, settle, hf, hv]
    exact ⟨fun _ _ => rfl, hstart.of_failed hkey hv⟩
  | some f =>
    cases ha : f.isActive with
    | false =>
      have hv : rules.valueAfresh who key = _ := Rules.valueAfresh_inactive hf ha
      simp only [run, settle, hf, ha, hv]
      refine ⟨fun _ he => (by cases he), hstart.of_settled hkey hv fun k hk => ?_⟩
      rw [Dict.get?_insert, if_neg hk.symm]
    | true =>
      have hv : rules.valueAfresh who key = _ := Rules.valueAfresh_active hf ha
      have hrun := f.evaluate_lockstep AnyReason.refl who.key (h f hf) (t := ()) hstart
      simp only [Rules.evaluateAfresh] at hv
      simp only [run, settle, hf, ha]
      -- the two evaluations go in step; what they come to is all that is looked at from here on
      generalize f.evaluate (rules.judgeLeaf who) who.key _ = x at hrun ⊢
      generalize f.evaluate (rules.judgeLeafAfresh who) who.key () = y at hrun hv
      cases hrun with
      | ok hm =>
        rw [hv]
        exact ⟨fun _ he => (by cases he), hm.of_settled hkey hv fun _ _ => rfl⟩
      | error _ hm =>
        rw [hv]
        exact ⟨fun _ _ => rfl, hm.of_failed hkey hv⟩

/-- A flag was asked for from a memo: the answer is the one that evaluating the flag gives, it is
noted, and whatever else is new is right. -/
structure Memo.Answered (rules : Rules) (who : Identity) (memo : Memo) (key : String)
    (run : Except Undecided FlagValue × Memo) : Prop where
  value_eq : run.1.toOption = (rules.valueAfresh who key).toOption
  noted : run.2.get? key = some (rules.settlementAfresh who key)
  learns : Memo.Learns rules who memo run.2

lemma ask_learns (hm : memo.CoherentAt rules who key)
    (h : ∀ f, rules.flags.get? key = some f → ∀ c ∈ f.conditions,
      rules.JudgedAfresh who (memo.insert key .inconclusive) c) :
    memo.Answered rules who key
      (askKnown (settle (rules.judgeLeaf who) rules.flags who.key) id key memo) := by
  -- whether the flag was known or had to be settled, the memo is right about it then
  have hstep : ∀ step, step = (if memo.contains key then (.ok (), memo)
        else settle (rules.judgeLeaf who) rules.flags who.key key memo) →
      (∀ e, step.1 = .error e → (rules.valueAfresh who key).toOption = none) ∧
        step.2.get? key = some (rules.settlementAfresh who key) ∧
        Memo.Learns rules who memo step.2 := by
    rintro step rfl
    cases hk : memo.get? key with
    | none =>
      simp only [Dict.contains, hk]
      exact settle_learns hk h
    | some s =>
      simp only [Dict.contains, hk]
      exact ⟨fun _ he => (by cases he), hm s hk ▸ hk, .refl _⟩
  simp only [askKnown, id]
  generalize (if memo.contains key then (Except.ok (), memo)
    else settle (rules.judgeLeaf who) rules.flags who.key key memo) = step at hstep ⊢
  obtain ⟨herror, hright, hlearns⟩ := hstep step rfl
  have hvalue := Memo.value?_eq hright
  obtain ⟨e | ⟨⟩, m⟩ := step
  · exact ⟨(herror e rfl).symm, hright, hlearns⟩
  · simp only at hvalue ⊢
    cases hknown : m.value? key with
    | none => exact ⟨hknown.symm.trans hvalue, hright, hlearns⟩
    | some value => exact ⟨hknown.symm.trans hvalue, hright, hlearns⟩

end Settling

/-! ### Transparency -/

namespace Rules

variable {rules : Rules} {who : Identity}

/-- A condition is judged as it is afresh, from a memo that is right about all it reaches. -/
lemma judgeLeaf_learns (hcohorts : rules.CohortsAcyclic) (hflags : rules.FlagsAcyclic)
    (hkeys : rules.ListOwnKeys) {c : Condition} (hkey : c.ListsOwnKey) {start : Memo}
    (hstart : ∀ key, rules.Reaches c key → start.CoherentAt rules who key) :
    rules.JudgedAfresh who start c := by
  -- on the weight of the condition, which everything that it refers to falls below
  induction hw : rules.weight c using Nat.strong_induction_on generalizing c start with
  | _ weight ih =>
    subst hw
    intro memo t hm
    rw [judgeLeaf_eq hcohorts, judgeLeafAfresh_eq hcohorts hflags hkeys who hkey]
    refine rules.judgeLeafBy_lockstep AnyReason.refl who c
      (fun hc tree htree d hd m t hm => ?_) (fun hc => ?_) hm
    · exact ih _ (hcohorts.weight_lt hc htree hd) (hkeys.cohort _ tree htree d hd)
        (fun key hreach => hstart key (hreach.of_cohort hc htree hd)) rfl m t hm
    · have hask : ∀ chain, c.dependencyChain = some chain → ∀ key ∈ chain, ∀ m,
          Memo.Learns rules who start m → m.Answered rules who key
            (askKnown (settle (rules.judgeLeaf who) rules.flags who.key) id key m) := by
        intro chain hchain key hmem m hm
        have hright : ∀ k, rules.Reaches c k → m.CoherentAt rules who k :=
          fun k hreach => hm.coherentAt (hstart k hreach)
        refine ask_learns (hright key (reaches_of_mem_chain hc hchain hmem)) fun f hf d hd => ?_
        refine ih _ (hflags.weight_lt hc hchain hmem hf hd) (hkeys.flag key f hf d hd)
          (fun k hreach s hs => ?_) rfl
        -- no condition of the flag that is being settled reaches it
        have hne : key ≠ k := by
          rintro rfl
          exact hflags key (hreach.transGen hf hd)
        rw [Dict.get?_insert, if_neg hne] at hs
        exact hright k (hreach.of_chain hc hchain hmem hf hd) s hs
      simp only [judgeDependency, judgeDependencyBy, judgeDependencyAfreshBy]
      refine Condition.judgeDependency_lockstep AnyReason.refl
        (fun chain hchain key hmem m t hm => ?_) (fun chain hchain hne hl m' t' hrun _ => ?_) hm
      · have hanswer := hask chain hchain key hmem m hm
        exact .of_toOption_eq hanswer.value_eq (hm.trans hanswer.learns)
      · -- the flag itself is in the chain, so its value is known, and right
        have hown := hkey hc hl chain hchain hne
        obtain ⟨-, hright⟩ := askChain_true (I := Memo.Learns rules who start)
          (J := fun k m => m.get? k = some (rules.settlementAfresh who k))
          (fun k hk m hm => hm.trans (hask chain hchain k hk m hm).learns)
          (fun k hk m _ hm _ _ => (hask chain hchain k hk m hm).noted)
          (fun k hk _ m hm hs => (hask chain hchain k hk m hm).learns.get?_eq hs) hm
          (congrArg Prod.fst hrun)
        rw [hrun] at hright
        exact Memo.value?_eq (hright c.key hown)

/-- A flag is evaluated as it is afresh, from a memo that is right about all flags. -/
lemma evaluate_learns (hcohorts : rules.CohortsAcyclic) (hflags : rules.FlagsAcyclic)
    (hkeys : rules.ListOwnKeys) {f : Flag} (hf : ∀ c ∈ f.conditions, c.ListsOwnKey) {memo : Memo}
    (hmemo : ∀ key, memo.CoherentAt rules who key) :
    (rules.evaluate who f memo).1.toOption = (rules.evaluateAfresh who f).toOption ∧
      Memo.Learns rules who memo (rules.evaluate who f memo).2 := by
  have hrun := f.evaluate_lockstep AnyReason.refl who.key (fun c hc =>
    judgeLeaf_learns hcohorts hflags hkeys (hf c hc) fun key _ => hmemo key) (t := ()) (.refl memo)
  exact ⟨hrun.toOption_eq, hrun.state⟩

lemma judgeGroup_learns (hcohorts : rules.CohortsAcyclic) (hflags : rules.FlagsAcyclic)
    (hkeys : rules.ListOwnKeys) (f : Flag) {g : ConditionGroup}
    (hg : ∀ c ∈ g.conditions.getD [], c.ListsOwnKey) {memo : Memo}
    (hmemo : ∀ key, memo.CoherentAt rules who key) :
    (rules.judgeGroup who f g memo).1.toOption = (rules.judgeGroupAfresh who f g).toOption := by
  have hrun := g.judge_lockstep f.key who.key (fun c hc =>
    judgeLeaf_learns hcohorts hflags hkeys (hg c hc) fun key _ => hmemo key) (t := ()) (.refl memo)
  exact hrun.toOption_eq

/-- Remembering changes no answer. From a memo that is right, a flag gets the value that it gets
when every flag is evaluated afresh, or neither can be decided; and the memo stays right. -/
theorem evaluate_transparent (hcohorts : rules.CohortsAcyclic) (hflags : rules.FlagsAcyclic)
    (hkeys : rules.ListOwnKeys) {f : Flag} (hf : ∀ c ∈ f.conditions, c.ListsOwnKey) {memo : Memo}
    (hmemo : memo.Coherent rules who) :
    (rules.evaluate who f memo).1.toOption = (rules.evaluateAfresh who f).toOption ∧
      (rules.evaluate who f memo).2.Coherent rules who := by
  have hright := Memo.coherent_iff.1 hmemo
  obtain ⟨houtcome, hlearns⟩ := evaluate_learns hcohorts hflags hkeys hf hright
  exact ⟨houtcome, Memo.coherent_iff.2 fun key => hlearns.coherentAt (hright key)⟩

end Rules

/-! ### Two ways to one flag -/

/-- Two flags depend on a third, one of them through a cohort that also asks for a flag that does
not exist. -/
def diamond : Rules where
  flags := .ofList [
    ("base", .ofGroups "base" [.ofConditions [.onProperty "plan"]]),
    ("left", .ofGroups "left" [.ofConditions [.onFlag "base" ["base"]]]),
    ("right", .ofGroups "right" [.ofConditions [.onCohort "1"]])]
  cohorts := .ofList [
    ("1", .leaves .any [.onFlag "ghost" ["ghost"], .onValue "base" ["base"] (.bool true)])]

lemma diamond_flags {key : String} {f : Flag} (h : diamond.flags.get? key = some f) :
    key = "base" ∧ f = .ofGroups "base" [.ofConditions [.onProperty "plan"]] ∨
      key = "left" ∧ f = .ofGroups "left" [.ofConditions [.onFlag "base" ["base"]]] ∨
      key = "right" ∧ f = .ofGroups "right" [.ofConditions [.onCohort "1"]] := by
  have hmem := Dict.mem_entries_of_get? h
  simpa only [show diamond.flags.entries = [
    ("base", .ofGroups "base" [.ofConditions [.onProperty "plan"]]),
    ("left", .ofGroups "left" [.ofConditions [.onFlag "base" ["base"]]]),
    ("right", .ofGroups "right" [.ofConditions [.onCohort "1"]])] from rfl, List.mem_cons,
    Prod.mk.injEq, List.not_mem_nil, or_false] using hmem

lemma diamond_cohorts {id : String} {tree : Cohort} (h : diamond.cohorts.get? id = some tree) :
    id = "1" ∧ tree = .leaves .any
      [.onFlag "ghost" ["ghost"], .onValue "base" ["base"] (.bool true)] := by
  have hmem := Dict.mem_entries_of_get? h
  simpa only [show diamond.cohorts.entries = [("1", .leaves .any
    [.onFlag "ghost" ["ghost"], .onValue "base" ["base"] (.bool true)])] from rfl,
    List.mem_singleton, Prod.mk.injEq] using hmem

lemma diamond_cohortsAcyclic : diamond.CohortsAcyclic := by
  refine not_transGen_self_of_rank (fun _ => 0) fun id _ hid => ?_
  obtain ⟨tree, htree, c, hc, hs, -⟩ := hid
  obtain ⟨rfl, rfl⟩ := diamond_cohorts htree
  rcases List.mem_pair.1 hc with rfl | rfl
  · cases hs
  · cases hs

lemma diamond_flagsAcyclic : diamond.FlagsAcyclic := by
  refine not_transGen_self_of_rank (fun key => if key = "left" ∨ key = "right" then 1 else 0)
    fun key k hk => ?_
  obtain ⟨f, hf, c, hc, hnames⟩ := hk
  rcases diamond_flags hf with ⟨rfl, rfl⟩ | ⟨rfl, rfl⟩ | ⟨rfl, rfl⟩
  · rw [Flag.conditions_ofGroups, List.mem_singleton] at hc
    subst hc
    exact absurd hnames Rules.not_names_onProperty
  · rw [Flag.conditions_ofGroups, List.mem_singleton] at hc
    subst hc
    rw [Rules.names_onFlag, List.mem_singleton] at hnames
    subst hnames
    decide
  · rw [Flag.conditions_ofGroups, List.mem_singleton] at hc
    subst hc
    obtain ⟨tree, htree, d, hd, hnames⟩ := Rules.names_onCohort.1 hnames
    obtain ⟨-, rfl⟩ := diamond_cohorts htree
    rcases List.mem_pair.1 hd with rfl | rfl
    · rw [Rules.names_onFlag, List.mem_singleton] at hnames
      subst hnames
      decide
    · rw [Rules.names_onValue, List.mem_singleton] at hnames
      subst hnames
      decide

lemma diamond_listOwnKeys : diamond.ListOwnKeys where
  flag key f hf c hc := by
    intro hs hl
    rcases diamond_flags hf with ⟨-, rfl⟩ | ⟨-, rfl⟩ | ⟨-, rfl⟩
    · rw [Flag.conditions_ofGroups, List.mem_singleton] at hc
      subst hc
      cases hs
    · rw [Flag.conditions_ofGroups, List.mem_singleton] at hc
      subst hc
      exact absurd rfl hl
    · rw [Flag.conditions_ofGroups, List.mem_singleton] at hc
      subst hc
      cases hs
  cohort id tree htree c hc := by
    intro _ hl chain hchain _
    obtain ⟨-, rfl⟩ := diamond_cohorts htree
    rcases List.mem_pair.1 hc with rfl | rfl
    · exact absurd rfl hl
    · cases hchain
      exact List.mem_singleton.2 rfl

/-- One of the two ways is known from the start, and so is what does not exist. -/
theorem evaluate_transparent_diamond :
    let who : Identity := ⟨"someone", .ofList [("plan", .string "pro")], ⟨0, 0⟩⟩
    let memo : Memo := .ofList [("ghost", .inconclusive), ("left", .settled (.boolean true))]
    let top : Flag := .ofGroups "top" [.ofConditions [.onFlag "left" ["left", "right"]]]
    diamond.CohortsAcyclic ∧ diamond.FlagsAcyclic ∧ diamond.ListOwnKeys ∧
      (∀ c ∈ top.conditions, c.ListsOwnKey) ∧ memo.Coherent diamond who ∧
      ((diamond.evaluate who top memo).1.toOption = (diamond.evaluateAfresh who top).toOption ∧
        (diamond.evaluate who top memo).2.Coherent diamond who) ∧
      (diamond.evaluateAfresh who top).toOption.map FlagMatch.value = some (.boolean true) := by
  intro who memo top
  have htop : ∀ c ∈ top.conditions, c.ListsOwnKey := by
    intro c hc
    rw [Flag.conditions_ofGroups, List.mem_singleton] at hc
    subst hc
    exact fun _ hl => absurd rfl hl
  have hmemo : memo.Coherent diamond who := by
    refine Memo.coherent_iff.2 fun key s hs => ?_
    have hmem := Dict.mem_entries_of_get? hs
    simp only [show memo.entries = [("ghost", .inconclusive), ("left", .settled (.boolean true))]
      from rfl, List.mem_cons, Prod.mk.injEq, List.not_mem_nil, or_false] at hmem
    rcases hmem with ⟨rfl, rfl⟩ | ⟨rfl, rfl⟩
    · decide
    · decide
  exact ⟨diamond_cohortsAcyclic, diamond_flagsAcyclic, diamond_listOwnKeys, htop, hmemo,
    Rules.evaluate_transparent diamond_cohortsAcyclic diamond_flagsAcyclic diamond_listOwnKeys htop
      hmemo, by decide⟩

end FeatureFlags
