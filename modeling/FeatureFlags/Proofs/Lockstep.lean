import FeatureFlags.Evaluation.Evaluator
import Mathlib.Data.Option.Basic
import Mathlib.Tactic.Common

/-!
# Evaluations in lockstep

An evaluation threads a state through junctions, trees, groups and flags without looking at it.
So two evaluations whose leaves keep in lockstep, which is to say that they give the same answers
and leave related states, keep in lockstep as a whole, even if the states are of different types.
Reasons for being undecided are compared by a relation of their own: equality, or `AnyReason` if
only the answers count.
-/

namespace FeatureFlags

variable {σ τ α β : Type} {E : Undecided → Undecided → Prop} {R : σ → τ → Prop}

/-- Two steps give the same answer, or are undecided for related reasons, and leave related
states. -/
inductive Lockstep (E : Undecided → Undecided → Prop) (R : σ → τ → Prop) :
    Except Undecided α × σ → Except Undecided α × τ → Prop where
  | ok {a : α} {s : σ} {t : τ} : R s t → Lockstep E R (.ok a, s) (.ok a, t)
  | error {e e' : Undecided} {s : σ} {t : τ} :
      E e e' → R s t → Lockstep E R (.error e, s) (.error e', t)

/-- Any two reasons for being undecided are related: only the answers count. -/
def AnyReason (_ _ : Undecided) : Prop := True

lemma AnyReason.refl (e : Undecided) : AnyReason e e := trivial

lemma ok_of_toOption_eq {v w : Except Undecided α} (h : v.toOption = w.toOption) {a : α}
    (hv : v = .ok a) : w = .ok a := by
  subst hv
  cases w with
  | error e => cases h
  | ok b => rw [Option.some.inj h]

namespace Lockstep

variable {x : Except Undecided α × σ} {y : Except Undecided α × τ}

lemma state (h : Lockstep E R x y) : R x.2 y.2 := by
  cases h with
  | ok hst => exact hst
  | error _ hst => exact hst

lemma toOption_eq (h : Lockstep E R x y) : x.1.toOption = y.1.toOption := by
  cases h with
  | ok _ => rfl
  | error _ _ => rfl

lemma of_toOption_eq (h : x.1.toOption = y.1.toOption) (hst : R x.2 y.2) :
    Lockstep AnyReason R x y := by
  obtain ⟨e | a, s⟩ := x <;> obtain ⟨e' | b, t⟩ := y
  · exact .error trivial hst
  · cases h
  · cases h
  · cases Option.some.inj h
    exact .ok hst

lemma outcome_eq (h : Lockstep Eq R x y) : x.1 = y.1 := by
  cases h with
  | ok _ => rfl
  | error he _ => rw [he]

/-- Steps of equal outcome keep in lockstep if every reason is related to itself. -/
lemma of_eq (hE : ∀ e, E e e) {v w : Except Undecided α} (hvw : v = w) {s : σ} {t : τ}
    (hst : R s t) : Lockstep E R (v, s) (w, t) := by
  subst hvw
  cases v with
  | ok a => exact .ok hst
  | error e => exact .error (hE e) hst

end Lockstep

/-- The same state twice, with a property: what relates an evaluation to itself. -/
def Twin (I : σ → Prop) (s s' : σ) : Prop := s = s' ∧ I s

lemma lockstep_twin_iff {I : σ → Prop} {x y : Except Undecided α × σ} :
    Lockstep Eq (Twin I) x y ↔ x = y ∧ I x.2 := by
  constructor
  · intro h
    cases h with
    | ok hst =>
      obtain ⟨rfl, hI⟩ := hst
      exact ⟨rfl, hI⟩
    | error he hst =>
      obtain ⟨rfl, hI⟩ := hst
      exact ⟨by rw [he], hI⟩
  · rintro ⟨rfl, hI⟩
    exact .of_eq (fun _ => rfl) rfl ⟨rfl, hI⟩

/-- A step that is in lockstep with itself keeps the invariant. -/
lemma Lockstep.keeps {I : σ → Prop} {x : Except Undecided α × σ} (h : Lockstep Eq (Twin I) x x) :
    I x.2 :=
  (lockstep_twin_iff.1 h).2

/-- A step that keeps an invariant keeps in lockstep with itself. -/
lemma lockstep_twin_of_keeps {I : σ → Prop} {step : σ → Except Undecided α × σ}
    (h : ∀ s, I s → I (step s).2) (s s' : σ) (hs : Twin I s s') :
    Lockstep Eq (Twin I) (step s) (step s') := by
  obtain ⟨rfl, hI⟩ := hs
  exact lockstep_twin_iff.2 ⟨rfl, h s hI⟩

/-! ### Junctions -/

namespace Junction

variable {u u' : Option Undecided}

/-- A branch moves a junction on alike in both evaluations: to the same decision, or to related
reasons. -/
inductive Progress.Alike (E : Undecided → Undecided → Prop) : Progress → Progress → Prop where
  | decided {b : Bool} : Progress.Alike E (.decided b) (.decided b)
  | goesOn {u u' : Option Undecided} (h : Option.Rel E u u') :
      Progress.Alike E (.goesOn u) (.goesOn u')

lemma next_alike (j : Junction) {x : Verdict × σ} {y : Verdict × τ} (hxy : Lockstep E R x y)
    (hu : Option.Rel E u u') : Progress.Alike E (j.next u x.1) (j.next u' y.1) := by
  cases hxy with
  | @ok b s t hst =>
    cases hu with
    | some he => cases j <;> cases b <;> first | exact .decided | exact .goesOn (.some he)
    | none => cases j <;> cases b <;> first | exact .decided | exact .goesOn .none
  | error he hst =>
    cases hu with
    | some hu => exact .goesOn (.some hu)
    | none => exact .goesOn (.some he)

lemma close_lockstep (j : Junction) (hu : Option.Rel E u u') {s : σ} {t : τ} (hst : R s t) :
    Lockstep E R (j.close u, s) (j.close u', t) := by
  cases hu with
  | some he => exact .error he hst
  | none => exact .ok hst

/-- Junctions whose branches keep in lockstep keep in lockstep. -/
lemma run_lockstep (j : Junction) {visit : α → σ → Verdict × σ} {visit' : α → τ → Verdict × τ}
    {l : List α} (h : ∀ a ∈ l, ∀ s t, R s t → Lockstep E R (visit a s) (visit' a t))
    (hu : Option.Rel E u u') {s : σ} {t : τ} (hst : R s t) :
    Lockstep E R (j.run visit u l s) (j.run visit' u' l t) := by
  induction l generalizing u u' s t with
  | nil => exact j.close_lockstep hu hst
  | cons a rest ih =>
    -- both stop at this branch or both go on, with related reasons
    have ha := h a List.mem_cons_self s t hst
    have hrest := fun b hb => h b (List.mem_cons_of_mem a hb)
    have hn := j.next_alike ha hu
    have hst := ha.state
    simp only [run]
    generalize j.next u (visit a s).1 = p at hn ⊢
    generalize j.next u' (visit' a t).1 = q at hn ⊢
    cases hn with
    | decided => exact .ok hst
    | goesOn hu => exact ih hrest hu hst

end Junction

/-! ### Trees -/

namespace Cohort

mutual

/-- The conditions of a tree, from left to right. -/
def conditions : Cohort → List Condition
  | .nodes _ children => conditionsOf children
  | .leaves _ conditions => conditions

/-- The conditions of a list of trees. -/
def conditionsOf : List Cohort → List Condition
  | [] => []
  | c :: rest => c.conditions ++ conditionsOf rest

end

lemma mem_conditionsOf {c : Condition} {trees : List Cohort} :
    c ∈ conditionsOf trees ↔ ∃ tree ∈ trees, c ∈ tree.conditions := by
  induction trees with
  | nil => simp [conditionsOf]
  | cons tree rest ih => simp [conditionsOf, ih]

mutual

/-- A property that passes from the children of a node to the node holds of every tree. -/
theorem induction {P : Cohort → Prop}
    (nodes : ∀ j children, (∀ tree ∈ children, P tree) → P (.nodes j children))
    (leaves : ∀ j conditions, P (.leaves j conditions)) : ∀ tree, P tree
  | .nodes j children => nodes j children (inductionOf nodes leaves children)
  | .leaves j conditions => leaves j conditions

/-- The induction for each of a list of trees. -/
theorem inductionOf {P : Cohort → Prop}
    (nodes : ∀ j children, (∀ tree ∈ children, P tree) → P (.nodes j children))
    (leaves : ∀ j conditions, P (.leaves j conditions)) :
    ∀ trees : List Cohort, ∀ tree ∈ trees, P tree
  | [] => List.forall_mem_nil _
  | first :: rest =>
    List.forall_mem_cons.2 ⟨induction nodes leaves first, inductionOf nodes leaves rest⟩

end

/-- Trees whose conditions are judged in lockstep are judged in lockstep. -/
lemma judge_lockstep {leaf : LeafJudge σ} {leaf' : LeafJudge τ} (tree : Cohort)
    (h : ∀ c ∈ tree.conditions, ∀ s t, R s t → Lockstep E R (leaf c s) (leaf' c t))
    {s : σ} {t : τ} (hst : R s t) : Lockstep E R (tree.judge leaf s) (tree.judge leaf' t) := by
  induction tree using Cohort.induction generalizing s t with
  | nodes j children ih =>
    simp only [conditions, mem_conditionsOf] at h
    simp only [judge, judgeChildren_eq_run]
    split
    · exact .ok hst
    · exact j.run_lockstep (fun tree ht s t => ih tree ht fun c hc => h c ⟨tree, ht, hc⟩) .none hst
  | leaves j conditions =>
    simp only [Cohort.conditions] at h
    simp only [judge]
    split
    · exact .ok hst
    · exact j.run_lockstep h .none hst

end Cohort

/-! ### Groups and flags -/

section Groups

variable {leaf : LeafJudge σ} {leaf' : LeafJudge τ}

lemma ConditionGroup.judge_lockstep (flagKey identity : String) (g : ConditionGroup)
    (h : ∀ c ∈ g.conditions.getD [], ∀ s t, R s t → Lockstep E R (leaf c s) (leaf' c t))
    {s : σ} {t : τ} (hst : R s t) :
    Lockstep E R (g.judge leaf flagKey identity s) (g.judge leaf' flagKey identity t) := by
  simp only [judge]
  split
  · exact .ok hst
  · have hr := Junction.all.run_lockstep h .none hst
    generalize Junction.all.run leaf none _ s = x at hr ⊢
    generalize Junction.all.run leaf' none _ t = y at hr ⊢
    cases hr with
    | @ok b s t hst => cases b <;> exact .ok hst
    | error he hst => exact .error he hst

namespace Flag

/-- The conditions of all groups of a flag. -/
def conditions (f : Flag) : List Condition := f.groups.flatMap fun g => g.conditions.getD []

lemma mem_groups_of_mem_orderedGroups {f : Flag} {i : Nat} {g : ConditionGroup}
    (h : (i, g) ∈ f.orderedGroups) : g ∈ f.groups := by
  have hmem : (i, g) ∈ f.groups.zipIdx.map fun g => (g.2, g.1) := by
    simp only [orderedGroups, List.mem_append, List.mem_filter] at h
    exact h.elim And.left And.left
  obtain ⟨⟨g', j⟩, hg, heq⟩ := List.mem_map.1 hmem
  obtain ⟨rfl, rfl⟩ := Prod.mk.inj heq
  exact (List.mem_zipIdx' hg).2 ▸ List.getElem_mem _

lemma mem_conditions_of_mem_group {f : Flag} {g : ConditionGroup} (hg : g ∈ f.groups)
    {c : Condition} (hc : c ∈ g.conditions.getD []) : c ∈ f.conditions :=
  List.mem_flatMap.2 ⟨g, hg, hc⟩

/-- Findings agree but for the reason for being undecided, which is related. -/
structure Findings.Alike (E : Undecided → Undecided → Prop) (found found' : Findings) : Prop where
  undecided : Option.Rel E found.undecided found'.undecided
  reason : found.reason = found'.reason
  groupIndex : found.groupIndex = found'.groupIndex

lemma Findings.Alike.noteReason {found found' : Findings} (h : Findings.Alike E found found')
    (reason : MatchReason) (i : Nat) :
    Findings.Alike E (found.noteReason reason i) (found'.noteReason reason i) := by
  simp only [Findings.noteReason, ← h.reason]
  split
  · exact ⟨h.undecided, rfl, rfl⟩
  · exact h

lemma Findings.Alike.noteUndecided {found found' : Findings} (h : Findings.Alike E found found')
    {e e' : Undecided} (he : E e e') :
    Findings.Alike E (found.noteUndecided e) (found'.noteUndecided e') := by
  refine ⟨?_, h.reason, h.groupIndex⟩
  have hu := h.undecided
  simp only [Findings.noteUndecided]
  generalize found.undecided = u at hu ⊢
  generalize found'.undecided = u' at hu ⊢
  cases hu with
  | some hu => exact .some hu
  | none => exact .some he

lemma Findings.outcome_lockstep {found found' : Findings} (h : Findings.Alike E found found')
    {s : σ} {t : τ} (hst : R s t) : Lockstep E R (found.outcome, s) (found'.outcome, t) := by
  have hu := h.undecided
  simp only [Findings.outcome, h.reason, h.groupIndex]
  generalize found.undecided = u at hu ⊢
  generalize found'.undecided = u' at hu ⊢
  cases hu with
  | some he => exact .error he hst
  | none => exact .ok hst

lemma tryGroups_lockstep (f : Flag) (identity : String) {groups : List (Nat × ConditionGroup)}
    (h : ∀ g ∈ groups, ∀ c ∈ g.2.conditions.getD [], ∀ s t, R s t →
      Lockstep E R (leaf c s) (leaf' c t))
    {found found' : Findings} (hf : Findings.Alike E found found') {s : σ} {t : τ} (hst : R s t) :
    Lockstep E R (tryGroups leaf f identity found groups s)
      (tryGroups leaf' f identity found' groups t) := by
  induction groups generalizing found found' s t with
  | nil => exact Findings.outcome_lockstep hf hst
  | cons g rest ih =>
    obtain ⟨i, g⟩ := g
    have hg := g.judge_lockstep f.key identity (h _ List.mem_cons_self) hst
    have hrest := fun g' hg' => h g' (List.mem_cons_of_mem _ hg')
    simp only [tryGroups]
    generalize g.judge leaf f.key identity s = x at hg ⊢
    generalize g.judge leaf' f.key identity t = y at hg ⊢
    cases hg with
    | @ok reason s t hst =>
      cases reason with
      | conditionMatch => exact .ok hst
      | noConditionMatch | outOfRollout | noGroupType | disabled =>
        exact ih hrest (hf.noteReason _ i) hst
    | error he hst => exact ih hrest (hf.noteUndecided he) hst

/-- A flag whose conditions are judged in lockstep is evaluated in lockstep. -/
lemma evaluate_lockstep (hE : ∀ e, E e e) (f : Flag) (identity : String)
    (h : ∀ c ∈ f.conditions, ∀ s t, R s t → Lockstep E R (leaf c s) (leaf' c t))
    {s : σ} {t : τ} (hst : R s t) :
    Lockstep E R (f.evaluate leaf identity s) (f.evaluate leaf' identity t) := by
  simp only [evaluate]
  split
  · exact .ok hst
  · split
    · exact .error (hE _) hst
    · refine f.tryGroups_lockstep identity (fun g hg c hc => ?_) ⟨.none, rfl, rfl⟩ hst
      exact h c (mem_conditions_of_mem_group (mem_groups_of_mem_orderedGroups hg) hc)

end Flag

end Groups

/-! ### Conditions on flags -/

section Dependencies

lemma askKnown_lockstep (hE : ∀ e, E e e) {settle : String → σ → Except Undecided Unit × σ}
    {settle' : String → τ → Except Undecided Unit × τ} {known : σ → Memo} {known' : τ → Memo}
    (hknown : ∀ s t, R s t → known s = known' t) {key : String} {s : σ} {t : τ}
    (h : (known s).contains key = false → Lockstep E R (settle key s) (settle' key t))
    (hst : R s t) : Lockstep E R (askKnown settle known key s) (askKnown settle' known' key t) := by
  have hstep : Lockstep E R
      (if (known s).contains key then (.ok (), s) else settle key s)
      (if (known' t).contains key then (.ok (), t) else settle' key t) := by
    rw [← hknown s t hst]
    split
    · exact .ok hst
    · rename_i hk
      exact h (Bool.eq_false_iff.2 hk)
  simp only [askKnown]
  generalize (if (known s).contains key then (Except.ok (), s) else settle key s) = x at hstep ⊢
  generalize (if (known' t).contains key then (Except.ok (), t) else settle' key t) = y at hstep ⊢
  cases hstep with
  | @ok _ s t hst =>
    rw [hknown s t hst]
    cases (known' t).value? key with
    | none => exact .error (hE _) hst
    | some value => exact .ok hst
  | error he hst => exact .error he hst

variable {ask : String → σ → Except Undecided FlagValue × σ}
  {ask' : String → τ → Except Undecided FlagValue × τ}

lemma askChain_lockstep {chain : List String}
    (h : ∀ key ∈ chain, ∀ s t, R s t → Lockstep E R (ask key s) (ask' key t)) {s : σ} {t : τ}
    (hst : R s t) : Lockstep E R (askChain ask chain s) (askChain ask' chain t) := by
  induction chain generalizing s t with
  | nil => exact .ok hst
  | cons key rest ih =>
    have hkey := h key List.mem_cons_self s t hst
    have hrest := fun k hk => h k (List.mem_cons_of_mem key hk)
    simp only [askChain]
    generalize ask key s = x at hkey ⊢
    generalize ask' key t = y at hkey ⊢
    cases hkey with
    | @ok value s t hst =>
      by_cases hv : value.isTruthy
      · simpa only [if_pos hv] using ih hrest hst
      · simpa only [if_neg hv] using Lockstep.ok hst
    | error he hst => exact .error he hst

/-- What an answer that a flag is on leaves behind, and no later answer takes away, holds after a
chain that is on. -/
lemma askChain_true {I : σ → Prop} {J : String → σ → Prop} {chain : List String}
    (hI : ∀ key ∈ chain, ∀ s, I s → I (ask key s).2)
    (hJ : ∀ key ∈ chain, ∀ s value, I s → (ask key s).1 = .ok value → value.isTruthy = true →
      J key (ask key s).2)
    (hkeep : ∀ key ∈ chain, ∀ k s, I s → J k s → J k (ask key s).2)
    {s : σ} (hs : I s) (h : (askChain ask chain s).1 = .ok true) :
    (∀ k, J k s → J k (askChain ask chain s).2) ∧
      ∀ key ∈ chain, J key (askChain ask chain s).2 := by
  induction chain generalizing s with
  | nil => exact ⟨fun k hk => hk, List.forall_mem_nil _⟩
  | cons key rest ih =>
    have hs' := hI key List.mem_cons_self s hs
    have hJ' := hJ key List.mem_cons_self s
    have hkeep' := fun k => hkeep key List.mem_cons_self k s hs
    simp only [askChain] at h ⊢
    generalize ask key s = x at h hs' hJ' hkeep' ⊢
    obtain ⟨e | value, s'⟩ := x
    · cases h
    · by_cases hv : value.isTruthy
      · simp only [if_pos hv] at h ⊢
        obtain ⟨hbefore, hrest⟩ := ih (fun k hk => hI k (List.mem_cons_of_mem key hk))
          (fun k hk => hJ k (List.mem_cons_of_mem key hk))
          (fun k hk => hkeep k (List.mem_cons_of_mem key hk)) hs' h
        exact ⟨fun k hk => hbefore k (hkeep' k hk),
          List.forall_mem_cons.2 ⟨hbefore key (hJ' value hs rfl hv), hrest⟩⟩
      · simp only [if_neg hv] at h
        cases h

/-- A condition on a flag is judged in lockstep if the flags of its chain are asked for in lockstep,
and if after a chain that is on the expected value is compared with one value. -/
lemma Condition.judgeDependency_lockstep (hE : ∀ e, E e e) {c : Condition}
    {value? : σ → String → Option FlagValue} {value?' : τ → String → Option FlagValue}
    {s : σ} {t : τ} (h : ∀ chain, c.dependencyChain = some chain → ∀ key ∈ chain, ∀ s t, R s t →
      Lockstep E R (ask key s) (ask' key t))
    (hvalue : ∀ chain, c.dependencyChain = some chain → chain ≠ [] → c.literal ≠ none →
      ∀ s' t', askChain ask chain s = (.ok true, s') → R s' t' →
        value? s' c.key = value?' t' c.key)
    (hst : R s t) :
    Lockstep E R (c.judgeDependency ask value? s) (c.judgeDependency ask' value?' t) := by
  simp only [judgeDependency]
  split
  · exact .error (hE _) hst
  · exact .error (hE _) hst
  · rename_i chain hne hchain
    have hc := askChain_lockstep (h chain hchain) hst
    have hval := hvalue chain hchain hne
    generalize hx : askChain ask chain s = x at hc ⊢
    generalize askChain ask' chain t = y at hc ⊢
    cases hc with
    | error he hst => exact .error he hst
    | @ok b s' t' hst =>
      cases b with
      | false => exact .ok hst
      | true =>
        refine .of_eq hE ?_ hst
        cases hl : c.literal with
        | none => simp only [checkDependency, hl]
        | some expected => rw [hval (by simp [hl]) s' t' hx hst]

end Dependencies

/-! ### Leaves -/

namespace Rules

variable {leaf onFlag : LeafJudge σ} {leaf' onFlag' : LeafJudge τ}

lemma judgeCohort_lockstep (hE : ∀ e, E e e) (rules : Rules) (c : Condition)
    (h : ∀ tree, rules.cohorts.get? c.cohortId = some tree → ∀ d ∈ tree.conditions, ∀ s t, R s t →
      Lockstep E R (leaf d s) (leaf' d t))
    {s : σ} {t : τ} (hst : R s t) :
    Lockstep E R (rules.judgeCohort leaf c s) (rules.judgeCohort leaf' c t) := by
  simp only [judgeCohort]
  split
  · exact .error (hE _) hst
  · rename_i tree htree
    have ht := tree.judge_lockstep (h tree htree) hst
    generalize tree.judge leaf s = x at ht ⊢
    generalize tree.judge leaf' t = y at ht ⊢
    cases ht with
    | ok hst => exact .ok hst
    | error he hst => exact .error he hst

lemma turn_lockstep (c : Condition) {x : Verdict × σ} {y : Verdict × τ}
    (h : Lockstep E R x y) : Lockstep E R (turn c x.1, x.2) (turn c y.1, y.2) := by
  cases h with
  | ok hst => exact .ok hst
  | error he hst => exact .error he hst

/-- Leaves keep in lockstep if the conditions that they refer to do: those of a cohort, and those
on flags. -/
lemma judgeLeafBy_lockstep (hE : ∀ e, E e e) (rules : Rules) (who : Identity) (c : Condition)
    (hleaf : c.subject = .cohort → ∀ tree, rules.cohorts.get? c.cohortId = some tree →
      ∀ d ∈ tree.conditions, ∀ s t, R s t → Lockstep E R (leaf d s) (leaf' d t))
    {s : σ} {t : τ}
    (hflag : c.subject = .flag → Lockstep E R (onFlag c s) (onFlag' c t)) (hst : R s t) :
    Lockstep E R (rules.judgeLeafBy who leaf onFlag c s)
      (rules.judgeLeafBy who leaf' onFlag' c t) := by
  simp only [judgeLeafBy]
  split
  · exact .of_eq hE rfl hst
  · rename_i hc
    exact turn_lockstep c (rules.judgeCohort_lockstep hE c (hleaf hc) hst)
  · rename_i hc
    exact turn_lockstep c (hflag hc)

/-- Leaves at one depth keep in lockstep if refused leaves do, and if conditions on flags do
whenever the conditions of flags do. -/
lemma judgeLeafWithin_lockstep (hE : ∀ e, E e e) (rules : Rules) (who : Identity)
    {onFlag : LeafJudge σ → LeafJudge σ} {onFlag' : LeafJudge τ → LeafJudge τ}
    (hrefuse : ∀ c s t, R s t → Lockstep E R (leaf c s) (leaf' c t))
    (hflag : ∀ inner inner', (∀ c s t, R s t → Lockstep E R (inner c s) (inner' c t)) →
      ∀ c s t, R s t → Lockstep E R (onFlag inner c s) (onFlag' inner' c t))
    (bound : Nat) (c : Condition) {s : σ} {t : τ} (hst : R s t) :
    Lockstep E R (rules.judgeLeafWithin who leaf onFlag bound c s)
      (rules.judgeLeafWithin who leaf' onFlag' bound c t) := by
  induction bound generalizing c s t with
  | zero => exact hrefuse c s t hst
  | succ bound ih =>
    simp only [judgeLeafWithin]
    refine rules.judgeLeafBy_lockstep hE who c (fun _ _ _ d _ s t => ih d) (fun _ => ?_) hst
    exact hflag _ _ (fun d s t => ih d) c s t hst

end Rules

end FeatureFlags
