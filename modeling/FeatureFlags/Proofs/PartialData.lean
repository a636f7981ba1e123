import FeatureFlags.Proofs.ConclusiveOutcomes
import Mathlib.Data.List.Perm.Subperm

/-!
# Partial data

A tree of conditions may be decided although properties are unknown and cohorts are missing: what is
unknown leaves a leaf undecided, and any-of passes such a leaf over when another branch is true.
What is decided then stays decided in the same way when more becomes known, at any depth of the tree
and below conditions on cohorts.

Main statement: more properties and more cohorts keep every verdict of a tree that does not lead to
flags. Flags are left out because the value of a flag may change when a group that was undecided
lets the identity in.
-/

namespace FeatureFlags

/-- A dictionary with all entries of another is not smaller. -/
lemma Dict.size_le_of_extends {α : Type} {d d' : Dict α}
    (h : ∀ k v, d.get? k = some v → d'.get? k = some v) : d.size ≤ d'.size := by
  have hnodup : d.entries.Nodup :=
    d.distinct_entries.imp fun hne heq => hne (congrArg Prod.fst heq)
  have hsubset : d.entries ⊆ d'.entries := fun e he =>
    get?_eq_some_iff.1 (h e.1 e.2 (get?_eq_some_iff.2 he))
  exact (List.subperm_of_subset hnodup hsubset).length_le

/-- All that is in a dictionary of one entry. -/
lemma Dict.eq_of_get?_single {α : Type} {k key : String} {v w : α}
    (h : (Dict.ofList [(k, v)]).get? key = some w) : key = k ∧ w = v :=
  Prod.mk.inj (List.mem_singleton.1 (mem_of_get?_ofList h))

namespace Rules

variable {σ τ : Type} {rules : Rules} {who : Identity}

/-- A condition is on a flag, or on a cohort with a condition that leads to one. -/
inductive LeadsToFlag (rules : Rules) : Condition → Prop where
  | flag {c : Condition} : c.subject = .flag → LeadsToFlag rules c
  | cohort {c d : Condition} {tree : Cohort} :
      c.subject = .cohort → rules.cohorts.get? c.cohortId = some tree → d ∈ tree.conditions →
      LeadsToFlag rules d → LeadsToFlag rules c

lemma not_leadsToFlag_of_person {c : Condition} (hc : c.subject = .person) :
    ¬rules.LeadsToFlag c := by
  rintro (hflag | ⟨hcohort, -, -, -⟩)
  · cases hc.symm.trans hflag
  · cases hc.symm.trans hcohort

lemma not_leadsToFlag_of_cohort {c : Condition} (hc : c.subject = .cohort)
    (h : ∀ tree, rules.cohorts.get? c.cohortId = some tree → ∀ d ∈ tree.conditions,
      ¬rules.LeadsToFlag d) : ¬rules.LeadsToFlag c := by
  rintro (hflag | ⟨-, htree, hd, hlead⟩)
  · cases hc.symm.trans hflag
  · exact h _ htree _ hd hlead

/-- With more cohorts, more references may follow one another. -/
lemma referenceBound_le {cohorts : Dict Cohort}
    (h : ∀ id tree, rules.cohorts.get? id = some tree → cohorts.get? id = some tree) :
    rules.referenceBound ≤ { rules with cohorts }.referenceBound := by
  have hsize := Nat.succ_le_succ (Dict.size_le_of_extends h)
  exact Nat.succ_le_succ (Nat.mul_le_mul_left _ hsize)

/-- A leaf that does not lead to flags keeps its verdict when more is known and references are
followed further. -/
lemma judgeLeafWithin_upheld {properties : Dict Json} {cohorts : Dict Cohort}
    (hproperties : properties.Extends who.properties)
    (hcohorts : ∀ id tree, rules.cohorts.get? id = some tree → cohorts.get? id = some tree)
    {onFlag : LeafJudge σ → LeafJudge σ} {onFlag' : LeafJudge τ → LeafJudge τ} {bound bound' : Nat}
    (hbound : bound ≤ bound') {c : Condition} (hc : ¬rules.LeadsToFlag c) (s : σ) (t : τ) :
    Upheld (rules.judgeLeafWithin who refuse onFlag bound c s).1
      ({ rules with cohorts }.judgeLeafWithin { who with properties } refuse onFlag' bound' c
        t).1 := by
  induction bound generalizing bound' c s t with
  | zero => exact upheld_error _ _
  | succ bound ih =>
    obtain ⟨bound', rfl⟩ := Nat.exists_eq_add_of_le' hbound
    refine judgeLeafBy_upheld hproperties hcohorts c (fun hcohort tree htree d hd s t => ?_) s t
      fun hflag => absurd (.flag hflag) hc
    -- what the cohort leads to, the leaf leads to
    have hd : ¬rules.LeadsToFlag d := fun h => hc (.cohort hcohort htree hd h)
    exact ih (Nat.le_add_left _ _) hd s t

/-- A tree that does not lead to flags keeps its verdict when properties and cohorts are added,
whatever is known about flags. -/
theorem judgeTree_of_more (rules : Rules) (who : Identity) {tree : Cohort}
    (hflags : ∀ c ∈ tree.conditions, ¬rules.LeadsToFlag c) {properties : Dict Json}
    (hproperties : properties.Extends who.properties) {cohorts : Dict Cohort}
    (hcohorts : ∀ id cohort, rules.cohorts.get? id = some cohort → cohorts.get? id = some cohort)
    (memo memo' : Memo) {b : Bool} (h : (rules.judgeTree who tree memo).1 = .ok b) :
    ({ rules with cohorts }.judgeTree { who with properties } tree memo').1 = .ok b := by
  have hleaf : ∀ c ∈ tree.conditions, ∀ s t : Memo, Upheld (rules.judgeLeaf who c s).1
      ({ rules with cohorts }.judgeLeaf { who with properties } c t).1 := fun c hc =>
    judgeLeafWithin_upheld hproperties hcohorts (referenceBound_le hcohorts) (hflags c hc)
  exact tree.judge_upheld hleaf memo memo' b h

end Rules

/-- Those outside of the beta are in the tree, although there is no team yet and the city is not
known: not being in the beta has been decided by the plan. -/
theorem judgeTree_of_more_beta :
    let outside : Condition :=
      ⟨"id", some (.text "beta"), some .notInCohort, .cohort, none, none, none⟩
    let tree : Cohort := .nodes .any [
      .leaves .all [.onCohort "team", .onProperty "city"], .leaves .all [outside]]
    let beta : Cohort := .nodes .all [
      .leaves .any [⟨"plan", some (.text "free"), none, .person, some true, none, none⟩]]
    let rules : Rules := ⟨∅, .ofList [("beta", beta)]⟩
    let cohorts : Dict Cohort := .ofList [("beta", beta), ("team", .leaves .all [])]
    let who : Identity := ⟨"someone", .ofList [("plan", .string "free")], ⟨0, 0⟩⟩
    let properties : Dict Json := .ofList [("city", .string "Oslo"), ("plan", .string "free")]
    (∀ c ∈ tree.conditions, ¬rules.LeadsToFlag c) ∧ properties.Extends who.properties ∧
      (∀ id cohort, rules.cohorts.get? id = some cohort → cohorts.get? id = some cohort) ∧
      (rules.judgeTree who tree ∅).1 = .ok true ∧
      ({ rules with cohorts }.judgeTree { who with properties } tree ∅).1 = .ok true := by
  intro outside tree beta rules cohorts who properties
  have hflags : ∀ c ∈ tree.conditions, ¬rules.LeadsToFlag c := by
    intro c hc
    have hmem : c = .onCohort "team" ∨ c = .onProperty "city" ∨ c = outside := by
      simpa [tree, Cohort.conditions, Cohort.conditionsOf] using hc
    rcases hmem with rfl | rfl | rfl
    · refine Rules.not_leadsToFlag_of_cohort rfl fun cohort hcohort => ?_
      exact absurd (Dict.eq_of_get?_single hcohort).1 (by decide)
    · exact Rules.not_leadsToFlag_of_person rfl
    · refine Rules.not_leadsToFlag_of_cohort rfl fun cohort hcohort d hd => ?_
      obtain ⟨-, rfl⟩ := Dict.eq_of_get?_single hcohort
      obtain rfl := List.mem_singleton.1 hd
      exact Rules.not_leadsToFlag_of_person rfl
  have hproperties : properties.Extends who.properties := by
    intro key value hvalue
    obtain ⟨rfl, rfl⟩ := Dict.eq_of_get?_single hvalue
    rfl
  have hcohorts : ∀ id cohort, rules.cohorts.get? id = some cohort →
      cohorts.get? id = some cohort := by
    intro id cohort hcohort
    obtain ⟨rfl, rfl⟩ := Dict.eq_of_get?_single hcohort
    simp [cohorts, Dict.ofList]
  have hrun : (rules.judgeTree who tree ∅).1 = .ok true := by decide
  exact ⟨hflags, hproperties, hcohorts, hrun,
    rules.judgeTree_of_more who hflags hproperties hcohorts ∅ ∅ hrun⟩

end FeatureFlags
