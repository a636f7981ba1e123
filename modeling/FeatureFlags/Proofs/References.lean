import FeatureFlags.Proofs.Lockstep
import Mathlib.Data.Finset.Card
import Mathlib.Data.Finset.Filter
import Mathlib.Logic.Relation

/-!
# What conditions refer to

A condition on a cohort leads to the conditions of its tree, and a condition on a flag to the
flags of its chain. Where no reference leads back to where it came from, what can still be reached
shrinks with every reference that is followed. Two counts measure this: the cohorts that a
condition reaches through cohorts alone, and the flags that it reaches in any way.
-/

namespace FeatureFlags

open Relation

/-! ### Counting keys -/

namespace Dict

variable {α : Type} (d : Dict α) {p q : String → Prop}

open Classical in
/-- How many keys of a dictionary have a property. -/
noncomputable def countKeys (p : String → Prop) : Nat := (d.keys.toFinset.filter p).card

open Classical in
lemma countKeys_le_size : d.countKeys p ≤ d.size := by
  calc d.countKeys p ≤ d.keys.toFinset.card := Finset.card_filter_le _ _
    _ ≤ d.keys.length := d.keys.toFinset_card_le
    _ = d.size := List.length_map _

open Classical in
lemma countKeys_mono (h : ∀ k, p k → q k) : d.countKeys p ≤ d.countKeys q :=
  Finset.card_le_card (Finset.monotone_filter_right _ fun k _ => h k)

open Classical in
/-- Fewer keys have the narrower of two properties, if one that has the other fails it. -/
lemma countKeys_lt (h : ∀ k, p k → q k) {k : String} {v : α} (hk : d.get? k = some v) (hq : q k)
    (hp : ¬p k) : d.countKeys p < d.countKeys q := by
  refine Finset.card_lt_card ⟨Finset.monotone_filter_right _ fun k _ => h k, fun hsub => hp ?_⟩
  have hmem : k ∈ d.keys.toFinset := List.mem_toFinset.2 (mem_keys_of_get? hk)
  exact (Finset.mem_filter.1 (hsub (Finset.mem_filter.2 ⟨hmem, hq⟩))).2

end Dict

/-- A relation that lowers a rank does not lead back to where it came from. -/
lemma not_transGen_self_of_rank {r : String → String → Prop} (rank : String → Nat)
    (h : ∀ a b, r a b → rank b < rank a) (a : String) : ¬TransGen r a a := by
  have hlt : ∀ b, TransGen r a b → rank b < rank a := by
    intro b hb
    induction hb with
    | single hab => exact h _ _ hab
    | tail _ hbc ih => exact (h _ _ hbc).trans ih
  exact fun ha => (hlt a ha).false

namespace Rules

variable (rules : Rules)

/-! ### Cohorts -/

/-- A cohort has a condition on a cohort. -/
def CohortRefers (a b : String) : Prop :=
  ∃ tree, rules.cohorts.get? a = some tree ∧
    ∃ c ∈ tree.conditions, c.subject = .cohort ∧ c.cohortId = b

/-- No cohort leads back to itself through conditions on cohorts. -/
def CohortsAcyclic : Prop := ∀ id, ¬TransGen rules.CohortRefers id id

lemma cohortsAcyclic_empty (flags : Dict Flag) : (Rules.mk flags ∅).CohortsAcyclic :=
  not_transGen_self_of_rank (fun _ => 0) fun _ _ ⟨_, htree, _⟩ => nomatch htree

/-- The cohorts that a condition reaches through conditions on cohorts. -/
def ReachesCohort (c : Condition) (id : String) : Prop :=
  c.subject = .cohort ∧ ReflTransGen rules.CohortRefers c.cohortId id

/-- How many cohorts a condition reaches through conditions on cohorts. -/
noncomputable def cohortCount (c : Condition) : Nat :=
  rules.cohorts.countKeys (rules.ReachesCohort c)

variable {rules}

lemma cohortCount_le (c : Condition) : rules.cohortCount c ≤ rules.cohorts.size :=
  rules.cohorts.countKeys_le_size

/-- The conditions of a cohort reach fewer cohorts than a condition on the cohort does. -/
lemma CohortsAcyclic.cohortCount_lt (h : rules.CohortsAcyclic) {c d : Condition} {tree : Cohort}
    (hc : c.subject = .cohort) (htree : rules.cohorts.get? c.cohortId = some tree)
    (hd : d ∈ tree.conditions) : rules.cohortCount d < rules.cohortCount c := by
  have hrefers : d.subject = .cohort → rules.CohortRefers c.cohortId d.cohortId :=
    fun hs => ⟨tree, htree, d, hd, hs, rfl⟩
  refine rules.cohorts.countKeys_lt (fun id hid => ?_) htree ⟨hc, .refl⟩ fun hid => ?_
  · exact ⟨hc, .head (hrefers hid.1) hid.2⟩
  · exact h c.cohortId (TransGen.head' (hrefers hid.1) hid.2)

/-! ### Flags -/

variable (rules)

/-- A condition names a flag in its own chain, or through the conditions of a cohort. -/
inductive Names : Condition → String → Prop where
  | chain {c : Condition} {chain : List String} {key : String} :
      c.subject = .flag → c.dependencyChain = some chain → key ∈ chain → Names c key
  | cohort {c d : Condition} {tree : Cohort} {key : String} :
      c.subject = .cohort → rules.cohorts.get? c.cohortId = some tree → d ∈ tree.conditions →
      Names d key → Names c key

variable {rules} in
lemma names_iff_of_flag {c : Condition} (hc : c.subject = .flag) {key : String} :
    rules.Names c key ↔ ∃ chain, c.dependencyChain = some chain ∧ key ∈ chain := by
  constructor
  · intro h
    cases h with
    | chain _ hchain hkey => exact ⟨_, hchain, hkey⟩
    | cohort hc' => cases hc.symm.trans hc'
  · rintro ⟨chain, hchain, hkey⟩
    exact .chain hc hchain hkey

variable {rules} in
lemma names_iff_of_cohort {c : Condition} (hc : c.subject = .cohort) {key : String} :
    rules.Names c key ↔ ∃ tree, rules.cohorts.get? c.cohortId = some tree ∧
      ∃ d ∈ tree.conditions, rules.Names d key := by
  constructor
  · intro h
    cases h with
    | chain hc' => cases hc.symm.trans hc'
    | cohort _ htree hd hkey => exact ⟨_, htree, _, hd, hkey⟩
  · rintro ⟨tree, htree, d, hd, hkey⟩
    exact .cohort hc htree hd hkey

/-- A flag has a condition that names another. -/
def DependsOn (a b : String) : Prop :=
  ∃ f, rules.flags.get? a = some f ∧ ∃ c ∈ f.conditions, rules.Names c b

/-- No flag leads back to itself through the chains of its conditions, directly or through
cohorts. -/
def FlagsAcyclic : Prop := ∀ key, ¬TransGen rules.DependsOn key key

/-- The flags that a condition reaches. -/
def Reaches (c : Condition) (key : String) : Prop :=
  ∃ k, rules.Names c k ∧ ReflTransGen rules.DependsOn k key

/-- How many flags a condition reaches. -/
noncomputable def flagCount (c : Condition) : Nat := rules.flags.countKeys (rules.Reaches c)

variable {rules}

lemma flagCount_le (c : Condition) : rules.flagCount c ≤ rules.flags.size :=
  rules.flags.countKeys_le_size

section Reach

variable {c d : Condition} {tree : Cohort} {chain : List String} {key k : String} {f : Flag}

lemma reaches_of_mem_chain (hc : c.subject = .flag) (hchain : c.dependencyChain = some chain)
    (hk : k ∈ chain) : rules.Reaches c k :=
  ⟨k, .chain hc hchain hk, .refl⟩

lemma Reaches.of_cohort (hc : c.subject = .cohort)
    (htree : rules.cohorts.get? c.cohortId = some tree) (hd : d ∈ tree.conditions)
    (h : rules.Reaches d key) : rules.Reaches c key := by
  obtain ⟨k, hk, hkey⟩ := h
  exact ⟨k, .cohort hc htree hd hk, hkey⟩

/-- What a condition of a flag reaches depends on the flag. -/
lemma Reaches.transGen (hf : rules.flags.get? k = some f) (hd : d ∈ f.conditions)
    (h : rules.Reaches d key) : TransGen rules.DependsOn k key := by
  obtain ⟨j, hj, hkey⟩ := h
  exact TransGen.head' ⟨f, hf, d, hd, hj⟩ hkey

lemma Reaches.of_chain (hc : c.subject = .flag) (hchain : c.dependencyChain = some chain)
    (hk : k ∈ chain) (hf : rules.flags.get? k = some f) (hd : d ∈ f.conditions)
    (h : rules.Reaches d key) : rules.Reaches c key :=
  ⟨k, .chain hc hchain hk, (h.transGen hf hd).to_reflTransGen⟩

lemma flagCount_le_of_cohort (hc : c.subject = .cohort)
    (htree : rules.cohorts.get? c.cohortId = some tree) (hd : d ∈ tree.conditions) :
    rules.flagCount d ≤ rules.flagCount c :=
  rules.flags.countKeys_mono fun _ hk => hk.of_cohort hc htree hd

/-- The conditions of a flag reach fewer flags than a condition on the flag does. -/
lemma FlagsAcyclic.flagCount_lt (h : rules.FlagsAcyclic) (hc : c.subject = .flag)
    (hchain : c.dependencyChain = some chain) (hk : k ∈ chain)
    (hf : rules.flags.get? k = some f) (hd : d ∈ f.conditions) :
    rules.flagCount d < rules.flagCount c :=
  rules.flags.countKeys_lt (fun _ hkey => hkey.of_chain hc hchain hk hf hd) hf
    (reaches_of_mem_chain hc hchain hk) fun hkey => h k (hkey.transGen hf hd)

end Reach

/-! ### Room for references -/

/-- How many references can follow one another below a condition, if so many flags can still be
met: between any two of them, every cohort once. -/
noncomputable def room (rules : Rules) (flags : Nat) (c : Condition) : Nat :=
  flags * (rules.cohorts.size + 1) + rules.cohortCount c

lemma room_lt_referenceBound {flags : Nat} (h : flags ≤ rules.flags.size) (c : Condition) :
    rules.room flags c < rules.referenceBound := by
  have hc := rules.cohortCount_le c
  have hmul := Nat.mul_le_mul_right (rules.cohorts.size + 1) h
  simp only [room, referenceBound, Nat.add_mul rules.flags.size 1]
  omega

/-- With one flag less to be met there is room below any condition that is met next. -/
lemma room_lt_of_lt {flags flags' : Nat} (h : flags' < flags) (c d : Condition) :
    rules.room flags' d < rules.room flags c := by
  -- every cohort once takes less than what a flag is counted for
  have hd := rules.cohortCount_le d
  have hmul := Nat.mul_le_mul_right (rules.cohorts.size + 1) (Nat.succ_le_of_lt h)
  simp only [Nat.succ_eq_add_one, Nat.add_mul] at hmul
  simp only [room]
  omega

/-- How many references can follow one another below a condition, if none leads back to where it
came from. -/
noncomputable def weight (rules : Rules) (c : Condition) : Nat := rules.room (rules.flagCount c) c

lemma weight_lt_referenceBound (c : Condition) : rules.weight c < rules.referenceBound :=
  room_lt_referenceBound (flagCount_le c) c

lemma CohortsAcyclic.weight_lt (h : rules.CohortsAcyclic) {c d : Condition} {tree : Cohort}
    (hc : c.subject = .cohort) (htree : rules.cohorts.get? c.cohortId = some tree)
    (hd : d ∈ tree.conditions) : rules.weight d < rules.weight c :=
  Nat.add_lt_add_of_le_of_lt (Nat.mul_le_mul_right _ (flagCount_le_of_cohort hc htree hd))
    (h.cohortCount_lt hc htree hd)

lemma FlagsAcyclic.weight_lt (h : rules.FlagsAcyclic) {c d : Condition} {chain : List String}
    {k : String} {f : Flag} (hc : c.subject = .flag) (hchain : c.dependencyChain = some chain)
    (hk : k ∈ chain) (hf : rules.flags.get? k = some f) (hd : d ∈ f.conditions) :
    rules.weight d < rules.weight c :=
  room_lt_of_lt (h.flagCount_lt hc hchain hk hf hd) c d

end Rules

/-! ### Small rules to write examples with -/

/-- A condition on a flag: the flags of the chain are on. -/
def Condition.onFlag (key : String) (chain : List String) : Condition :=
  ⟨key, none, none, .flag, none, some chain, none⟩

/-- A condition on a flag: the flags of the chain are on, and the flag has a value. -/
def Condition.onValue (key : String) (chain : List String) (expected : Literal) : Condition :=
  ⟨key, some expected, some .flagEvaluatesTo, .flag, none, some chain, none⟩

/-- A condition on a cohort: it has the identity as a member. -/
def Condition.onCohort (id : String) : Condition :=
  ⟨"id", some (.text id), none, .cohort, none, none, none⟩

/-- A condition on a property: it is set. -/
def Condition.onProperty (key : String) : Condition :=
  ⟨key, none, some .isSet, .person, none, none, none⟩

namespace Rules

variable {rules : Rules} {key k id : String} {chain : List String}

@[simp] lemma names_onFlag : rules.Names (.onFlag key chain) k ↔ k ∈ chain := by
  simp [names_iff_of_flag, Condition.onFlag]

@[simp] lemma names_onValue {expected : Literal} :
    rules.Names (.onValue key chain expected) k ↔ k ∈ chain := by
  simp [names_iff_of_flag, Condition.onValue]

lemma names_onCohort : rules.Names (.onCohort id) k ↔
    ∃ tree, rules.cohorts.get? id = some tree ∧ ∃ d ∈ tree.conditions, rules.Names d k :=
  names_iff_of_cohort rfl

@[simp] lemma not_names_onProperty : ¬rules.Names (.onProperty key) k := by
  intro h
  cases h with
  | chain hc => cases hc
  | cohort hc => cases hc

end Rules

/-- An active flag with these groups, and without variants. -/
def Flag.ofGroups (key : String) (groups : List ConditionGroup) : Flag :=
  ⟨1, none, key, ⟨groups, none, none, none⟩, false, true, false, none⟩

/-- A group with these conditions, that lets everyone in who meets them. -/
def ConditionGroup.ofConditions (conditions : List Condition) : ConditionGroup :=
  ⟨some conditions, none, none⟩

@[simp] lemma Flag.conditions_ofGroups (key : String) (conditions : List Condition) :
    (Flag.ofGroups key [.ofConditions conditions]).conditions = conditions :=
  List.append_nil conditions

end FeatureFlags
