import FeatureFlags.Proofs.Inversion
import FeatureFlags.Proofs.References
import FeatureFlags.Proofs.Shares
import Mathlib.Data.List.Forall2

/-!
# Raising rollouts

When the rollout of a group is raised, the group lets in whomever it let in before. A flag that is
raised may be decided by another group than before, since a group that is tried earlier may let the
identity in now, but it stays on. The flags that it depends on do not change, unless it depends on
itself.
-/

namespace FeatureFlags

variable {σ : Type}

/-! ### Rollouts -/

/-- A rollout is kept, raised to a greater percentage, or removed. -/
inductive RaisedRollout : Option Float → Option Float → Prop where
  | kept (p : Option Float) : RaisedRollout p p
  | raised {p p' : Float} (h : p < p') : RaisedRollout (some p) (some p')
  | removed (p : Float) : RaisedRollout (some p) none

/-- A raised rollout lets in whomever it let in before. -/
lemma RaisedRollout.isInRollout {p p' : Option Float} (h : RaisedRollout p p')
    {flagKey identity : String} (hin : isInRollout flagKey identity p = true) :
    isInRollout flagKey identity p' = true := by
  cases h with
  | kept => exact hin
  | raised hlt =>
    exact decide_eq_true
      (Binary64.lt_of_lt_of_le (of_decide_eq_true hin) (shareOf_le_shareOf hlt))
  | removed => rfl

/-! ### Groups -/

/-- Only the rollout of the group is raised. -/
structure ConditionGroup.Raised (g g' : ConditionGroup) : Prop where
  conditions : g'.conditions = g.conditions
  variant : g'.variant = g.variant
  rollout : RaisedRollout g.rollout g'.rollout

section Groups

variable {leaf leaf' : LeafJudge σ} {flagKey identity : String} {g g' : ConditionGroup}

/-- Steps that are the same keep in lockstep. -/
lemma lockstep_of_forall_eq {α : Type} {step step' : σ → Except Undecided α × σ}
    (h : ∀ s, step' s = step s) (s t : σ) (hst : Twin (fun _ => True) s t) :
    Lockstep Eq (Twin fun _ => True) (step' s) (step t) := by
  obtain ⟨rfl, -⟩ := hst
  exact lockstep_twin_iff.2 ⟨h s, trivial⟩

/-- A junction whose branches are judged alike is judged alike. -/
lemma Junction.run_congr (j : Junction) {conditions : List Condition}
    (h : ∀ c ∈ conditions, ∀ s, leaf' c s = leaf c s) (s : σ) :
    j.run leaf' none conditions s = j.run leaf none conditions s :=
  (lockstep_twin_iff.1 (j.run_lockstep (fun c hc => lockstep_of_forall_eq (h c hc)) .none
    ⟨rfl, trivial⟩)).1

/-- A raised group is judged as before, unless it lets the identity in now. -/
lemma ConditionGroup.Raised.judge (hg : g.Raised g') (flagKey identity : String)
    (hleaf : ∀ c ∈ g.conditions.getD [], ∀ s, leaf' c s = leaf c s) (s : σ) :
    (g'.judge leaf' flagKey identity s).2 = (g.judge leaf flagKey identity s).2 ∧
    ((g'.judge leaf' flagKey identity s).1 = .ok .conditionMatch ∨
      (g'.judge leaf' flagKey identity s).1 = (g.judge leaf flagKey identity s).1) := by
  obtain ⟨conditions, rollout, variant⟩ := g
  obtain ⟨conditions', rollout', variant'⟩ := g'
  obtain ⟨rfl, rfl, hrollout⟩ := hg
  -- the conditions are the same, so only the draw against the rollout can come out otherwise
  have hreason :
      (if isInRollout flagKey identity rollout' then MatchReason.conditionMatch
        else .outOfRollout) = .conditionMatch ∨
      (if isInRollout flagKey identity rollout' then MatchReason.conditionMatch
        else .outOfRollout) =
        if isInRollout flagKey identity rollout then .conditionMatch else .outOfRollout := by
    by_cases hin' : isInRollout flagKey identity rollout' = true
    · exact .inl (if_pos hin')
    · exact .inr (by rw [if_neg hin', if_neg (mt hrollout.isInRollout hin')])
  have hrun : Junction.all.run leaf' none (conditions'.getD []) s =
      Junction.all.run leaf none (conditions'.getD []) s := Junction.all.run_congr hleaf s
  simp only [ConditionGroup.judge]
  split
  · exact ⟨rfl, hreason.imp (congrArg Except.ok) (congrArg Except.ok)⟩
  · rw [hrun]
    generalize Junction.all.run leaf none (conditions'.getD []) s = x
    obtain ⟨e | b, t⟩ := x
    · exact ⟨rfl, .inr rfl⟩
    · cases b with
      | false => exact ⟨rfl, .inr rfl⟩
      | true => exact ⟨rfl, hreason.imp (congrArg Except.ok) (congrArg Except.ok)⟩

namespace Flag

variable {f f' : Flag} {m : FlagMatch}

/-- Raised groups, each with its position. -/
def RaisedAt (g g' : Nat × ConditionGroup) : Prop := g'.1 = g.1 ∧ g.2.Raised g'.2

/-- If one of the groups lets the identity in, then one does when groups are raised. -/
lemma tryGroups_of_raised (hkey : f'.key = f.key) {groups groups' : List (Nat × ConditionGroup)}
    (hraised : List.Forall₂ RaisedAt groups groups')
    (hleaf : ∀ g ∈ groups, ∀ c ∈ g.2.conditions.getD [], ∀ s, leaf' c s = leaf c s)
    {found found' : Findings} {s : σ}
    (h : (tryGroups leaf f identity found groups s).1 = .ok m) (hm : m.isMatch = true) :
    ∃ m', (tryGroups leaf' f' identity found' groups' s).1 = .ok m' ∧ m'.isMatch = true := by
  induction hraised generalizing found found' s with
  | nil =>
    rw [Findings.eq_off_of_outcome h] at hm
    cases hm
  | @cons g g' rest rest' hg _ ih =>
    have hrest := fun k hk => hleaf k (List.mem_cons_of_mem g hk)
    obtain ⟨hstate, hanswer⟩ := hg.2.judge f.key identity
      (hleaf g List.mem_cons_self) s
    rw [← hkey] at hstate hanswer
    by_cases hmatch : (g'.2.judge leaf' f'.key identity s).1 = .ok .conditionMatch
    · exact ⟨_, tryGroups_match hmatch, rfl⟩
    -- both go on with the rest, in the same state
    have hsame := hanswer.resolve_left hmatch
    cases hv : (g'.2.judge leaf' f'.key identity s).1 with
    | error e =>
      rw [hv, hkey] at hsame
      rw [tryGroups_undecided hsame.symm] at h
      rw [tryGroups_undecided hv, hstate, hkey]
      exact ih hrest h
    | ok reason =>
      have hne : reason ≠ .conditionMatch := fun hr => hmatch (hr ▸ hv)
      rw [hv, hkey] at hsame
      rw [tryGroups_off hsame.symm hne] at h
      rw [tryGroups_off hv hne, hstate, hkey]
      exact ih hrest h

/-- Only rollouts of groups are raised. -/
structure Raised (f f' : Flag) : Prop where
  groups : List.Forall₂ ConditionGroup.Raised f.groups f'.groups
  rest : f' = { f with targeting := { f.targeting with groups := f'.groups } }

lemma Raised.key (h : f.Raised f') : f'.key = f.key := by rw [h.rest]

lemma Raised.orderedGroups (h : f.Raised f') :
    List.Forall₂ RaisedAt f.orderedGroups f'.orderedGroups := by
  have hnumbered : List.Forall₂ RaisedAt (f.groups.zipIdx.map fun g => (g.2, g.1))
      (f'.groups.zipIdx.map fun g => (g.2, g.1)) := by
    have hfrom : ∀ n, List.Forall₂ RaisedAt ((f.groups.zipIdx n).map fun g => (g.2, g.1))
        ((f'.groups.zipIdx n).map fun g => (g.2, g.1)) := by
      have hgroups := h.groups
      generalize f.groups = groups at hgroups
      generalize f'.groups = groups' at hgroups
      induction hgroups with
      | nil => exact fun _ => .nil
      | cons hg _ ih => exact fun n => .cons ⟨rfl, hg⟩ (ih (n + 1))
    exact hfrom 0
  have hsome : Relator.LiftFun RaisedAt Iff (fun g => g.2.variant.isSome = true)
      (fun g => g.2.variant.isSome = true) := fun g g' hg => by simp only [hg.2.variant]
  have hnone : Relator.LiftFun RaisedAt Iff (fun g => g.2.variant.isNone = true)
      (fun g => g.2.variant.isNone = true) := fun g g' hg => by simp only [hg.2.variant]
  exact List.rel_append (List.rel_filter hsome hnumbered) (List.rel_filter hnone hnumbered)

/-- A flag that is on stays on when it is raised, if its conditions are judged alike. -/
lemma isMatch_evaluate_raised (hraised : f.Raised f')
    (hleaf : ∀ c ∈ f.conditions, ∀ s, leaf' c s = leaf c s) {s : σ}
    (h : (f.evaluate leaf identity s).1 = .ok m) (hm : m.isMatch = true) :
    ∃ m', (f'.evaluate leaf' identity s).1 = .ok m' ∧ m'.isMatch = true := by
  have hactive : f'.isActive = f.isActive := by rw [hraised.rest]
  have hdeleted : f'.isDeleted = f.isDeleted := by rw [hraised.rest]
  have hkeeps : f'.keepsExperience = f.keepsExperience := by rw [hraised.rest]
  simp only [evaluate, hactive, hdeleted, hkeeps] at h ⊢
  split at h
  · cases h
    cases hm
  split at h
  · cases h
  rename_i hon hlocal
  rw [if_neg hon, if_neg hlocal]
  refine tryGroups_of_raised hraised.key hraised.orderedGroups (fun g hg c hc => ?_) h hm
  exact hleaf c (mem_conditions_of_mem_group (mem_groups_of_mem_orderedGroups hg) hc)

end Flag

end Groups

/-! ### Rules -/

lemma Dict.get?_mapWithKey {α β : Type} (f : String → α → β) (d : Dict α) (k : String) :
    (d.mapWithKey f).get? k = (d.get? k).map (f k) := by
  simp only [get?, mapWithKey, List.find?_map, Function.comp_def]
  cases h : d.entries.find? fun e => e.1 = k with
  | none => rfl
  | some e =>
    obtain rfl : e.1 = k := by simpa using List.find?_some h
    rfl

namespace Rules

/-- The rules with a flag in place of the one of its key. -/
def replaceFlag (rules : Rules) (f : Flag) : Rules :=
  { rules with flags := rules.flags.mapWithKey fun key g => if key = f.key then f else g }

/-- A flag can reach itself through the chains of conditions, directly or through cohorts. -/
def ReachesItself (rules : Rules) (f : Flag) : Prop := ∃ c ∈ f.conditions, rules.Reaches c f.key

variable {rules : Rules} {who : Identity} {f : Flag}

lemma get?_replaceFlag_of_ne {key : String} (h : key ≠ f.key) :
    (rules.replaceFlag f).flags.get? key = rules.flags.get? key := by
  simp [replaceFlag, Dict.get?_mapWithKey, h]

lemma referenceBound_replaceFlag : (rules.replaceFlag f).referenceBound = rules.referenceBound := by
  simp [referenceBound, replaceFlag, Dict.size, Dict.mapWithKey]

/-- A flag that is settled is settled alike if the flag found is the same, and its conditions are
judged alike. -/
lemma settle_congr {leaf leaf' : LeafJudge Memo} {flags flags' : Dict Flag} {key : String}
    (identity : String) (hflags : flags'.get? key = flags.get? key)
    (hleaf : ∀ g, flags.get? key = some g → ∀ c ∈ g.conditions, ∀ s, leaf' c s = leaf c s)
    (memo : Memo) :
    settle leaf' flags' identity key memo = settle leaf flags identity key memo := by
  simp only [settle, hflags]
  cases hg : flags.get? key with
  | none => rfl
  | some g =>
    have hsame : g.evaluate leaf' identity (memo.insert key .inconclusive) =
        g.evaluate leaf identity (memo.insert key .inconclusive) :=
      (lockstep_twin_iff.1 (g.evaluate_lockstep (fun _ => rfl) identity
        (fun c hc => lockstep_of_forall_eq (hleaf g hg c hc)) ⟨rfl, trivial⟩)).1
    simp only [hsame]

variable (who) in
/-- A condition on a flag does not depend on a flag that it does not reach, if the conditions that
it leads to do not. -/
lemma judgeDependencyBy_replaceFlag {leaf leaf' : LeafJudge Memo} {c : Condition}
    (hflag : c.subject = .flag) (hc : ¬rules.Reaches c f.key)
    (hleaf : ∀ d, ¬rules.Reaches d f.key → ∀ s, leaf' d s = leaf d s) (memo : Memo) :
    (rules.replaceFlag f).judgeDependencyBy who leaf' c memo =
      rules.judgeDependencyBy who leaf c memo := by
  have hask : ∀ chain, c.dependencyChain = some chain → ∀ key ∈ chain, ∀ s t,
      Twin (fun _ => True) s t → Lockstep Eq (Twin fun _ => True)
        (askKnown (settle leaf' (rules.replaceFlag f).flags who.key) id key s)
        (askKnown (settle leaf rules.flags who.key) id key t) := by
    intro chain hchain key hkey s t hst
    have hne : key ≠ f.key := fun h => hc (h ▸ reaches_of_mem_chain hflag hchain hkey)
    have hsettle := settle_congr who.key (get?_replaceFlag_of_ne hne)
      fun g hg d hd => hleaf d fun hreaches => hc (hreaches.of_chain hflag hchain hkey hg hd)
    exact askKnown_lockstep (fun _ => rfl) (fun _ _ hst => hst.1)
      (fun _ => lockstep_of_forall_eq hsettle s t hst) hst
  exact (lockstep_twin_iff.1 (Condition.judgeDependency_lockstep (fun _ => rfl) hask
    (fun _ _ _ _ s t _ hst => by rw [hst.1]) ⟨rfl, trivial⟩)).1

/-- A condition does not depend on a flag that it does not reach. -/
lemma judgeLeafWithin_replaceFlag (bound : Nat) {c : Condition} (hc : ¬rules.Reaches c f.key)
    (memo : Memo) :
    (rules.replaceFlag f).judgeLeafWithin who refuse
      ((rules.replaceFlag f).judgeDependencyBy who) bound c memo =
    rules.judgeLeafWithin who refuse (rules.judgeDependencyBy who) bound c memo := by
  -- on the bound: nothing that the condition refers to reaches the flag either
  induction bound generalizing c memo with
  | zero => rfl
  | succ bound ih =>
    simp only [judgeLeafWithin]
    generalize (rules.replaceFlag f).judgeLeafWithin who refuse
      ((rules.replaceFlag f).judgeDependencyBy who) bound = leaf' at ih ⊢
    generalize rules.judgeLeafWithin who refuse (rules.judgeDependencyBy who) bound = leaf at ih ⊢
    have hcohorts (hcohort : c.subject = .cohort) (tree : Cohort)
        (htree : rules.cohorts.get? c.cohortId = some tree) :
        ∀ d ∈ tree.conditions, ∀ s t, Twin (fun _ => True) s t →
          Lockstep Eq (Twin fun _ => True) (leaf' d s) (leaf d t) := fun d hd =>
      lockstep_of_forall_eq (ih fun hreaches => hc (hreaches.of_cohort hcohort htree hd))
    have hflags (hflag : c.subject = .flag) := lockstep_of_forall_eq
      (judgeDependencyBy_replaceFlag who hflag hc fun d hd => ih hd) memo memo
      ⟨rfl, trivial⟩
    exact (lockstep_twin_iff.1 (rules.judgeLeafBy_lockstep (fun _ => rfl) who c hcohorts hflags
      ⟨rfl, trivial⟩)).1

/-- A flag that does not reach itself and is on for an identity stays on when rollouts of its groups
are raised or removed. -/
theorem evaluate_of_raised {f' : Flag} (hself : ¬rules.ReachesItself f) (hraised : f.Raised f')
    (memo : Memo) {m : FlagMatch} (h : (rules.evaluate who f memo).1 = .ok m)
    (hm : m.isMatch = true) :
    ∃ m', ((rules.replaceFlag f').evaluate who f' memo).1 = .ok m' ∧ m'.isMatch = true := by
  refine Flag.isMatch_evaluate_raised hraised (fun c hc s => ?_) h hm
  have hreaches : ¬rules.Reaches c f'.key := hraised.key ▸ fun hr => hself ⟨c, hc, hr⟩
  rw [judgeLeaf, judgeLeaf, referenceBound_replaceFlag]
  exact judgeLeafWithin_replaceFlag _ hreaches s

end Rules

/-- The first group of a ramp lets nobody in, and the second lets everyone in. When the first lets
everyone in as well it decides instead, for it asks for a variant. -/
theorem evaluate_of_raised_ramp :
    let ramp (p : Float) : Flag := .ofGroups "ramp" [
      ⟨some [.onFlag "beta" ["beta"]], some p, some "steep"⟩, ⟨none, none, none⟩]
    let beta : Flag := .ofGroups "beta" [⟨none, none, none⟩]
    let rules : Rules := ⟨.ofList [("beta", beta), ("ramp", ramp 0.0)], ∅⟩
    let who : Identity := ⟨"someone", ∅, ⟨0, 0⟩⟩
    ¬rules.ReachesItself (ramp 0.0) ∧ (ramp 0.0).Raised (ramp 100.0) ∧
      (rules.evaluate who (ramp 0.0) ∅).1 = .ok (.on (ramp 0.0) none 1) ∧
      ∃ m', ((rules.replaceFlag (ramp 100.0)).evaluate who (ramp 100.0) ∅).1 = .ok m' ∧
        m'.isMatch = true := by
  intro ramp beta rules who
  have hself : ¬rules.ReachesItself (ramp 0.0) := by
    rintro ⟨c, hc, k, hnames, hk⟩
    obtain rfl : c = .onFlag "beta" ["beta"] := List.mem_singleton.1 hc
    obtain rfl : k = "beta" := List.mem_singleton.1 (Rules.names_onFlag.1 hnames)
    obtain heq | ⟨_, ⟨g, hg, d, hd, -⟩, -⟩ := Relation.ReflTransGen.cases_head hk
    · exact absurd heq (show ("beta" : String) ≠ "ramp" by decide)
    · have hbeta : rules.flags.get? "beta" = some beta := by
        simp [rules, Dict.ofList]
      obtain rfl := Option.some.inj (hg.symm.trans hbeta)
      cases hd
  have hraised : (ramp 0.0).Raised (ramp 100.0) :=
    ⟨.cons ⟨rfl, rfl, .raised (by decide +kernel)⟩ (.cons ⟨rfl, rfl, .kept none⟩ .nil), rfl⟩
  have hrun : (rules.evaluate who (ramp 0.0) ∅).1 = .ok (.on (ramp 0.0) none 1) := by
    decide +kernel
  exact ⟨hself, hraised, hrun, Rules.evaluate_of_raised hself hraised ∅ hrun rfl⟩

end FeatureFlags
