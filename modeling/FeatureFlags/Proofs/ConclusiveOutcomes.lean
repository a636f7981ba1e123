import FeatureFlags.Proofs.EvaluationWithoutMemo
import FeatureFlags.Proofs.Inversion

/-!
# Conclusive outcomes of junctions, trees, groups and flags

An outcome is upheld by another if what it says conclusively, the other says too. Junctions, trees,
groups and conditions of all kinds uphold what they have said if their parts do. A flag does so
with a proviso. A group that is undecided is passed over, and once it is decided it may be the first
to let the identity in; then it has to show the variant of the group that did so before.
-/

namespace FeatureFlags

/-- What one outcome says conclusively, another says too. -/
def Upheld {α : Type} (v w : Except Undecided α) : Prop := ∀ a, v = .ok a → w = .ok a

section Upheld

variable {α : Type} {v w : Except Undecided α} {x y : Except Undecided α × Unit}

lemma Upheld.refl (v : Except Undecided α) : Upheld v v := fun _ h => h

lemma upheld_error (e : Undecided) (w : Except Undecided α) : Upheld (.error e) w := fun _ => nofun

lemma Upheld.ok {a : α} (h : Upheld (.ok a) w) : w = .ok a := h a rfl

/-- The first outcome is undecided, or the second is the same. -/
lemma Upheld.outcomes (h : Upheld x.1 y.1) :
    (∃ e, x = (.error e, ())) ∨ ∃ a, x = (.ok a, ()) ∧ y = (.ok a, ()) := by
  obtain ⟨e | a, ⟨⟩⟩ := x
  · exact .inl ⟨e, rfl⟩
  · exact .inr ⟨a, rfl, Prod.ext h.ok rfl⟩

lemma Upheld.toOption {a : α} (h : Upheld v w) (hv : v.toOption = some a) :
    w.toOption = some a := by
  cases v with
  | error e => cases hv
  | ok b =>
    rw [h.ok]
    exact hv

end Upheld

/-! ### Junctions, trees and groups -/

section Structure

variable {σ τ : Type}

/-- A junction keeps its decision if its branches do, from any states. -/
lemma Junction.run_upheld (j : Junction) {α : Type} {visit : α → σ → Verdict × σ}
    {visit' : α → τ → Verdict × τ} {l : List α}
    (h : ∀ a ∈ l, ∀ s t, Upheld (visit a s).1 (visit' a t).1) (u u' : Option Undecided)
    (hu : u = none → u' = none) (s : σ) (t : τ) :
    Upheld (j.run visit u l s).1 (j.run visit' u' l t).1 := by
  induction l generalizing u u' s t with
  | nil =>
    intro b hb
    cases u with
    | some e => cases hb
    | none =>
      rw [hu rfl]
      exact hb
  | cons a rest ih =>
    have ha := h a List.mem_cons_self s t
    have hrest := fun u u' hu =>
      ih (fun b hb => h b (List.mem_cons_of_mem a hb)) u u' hu (visit a s).2 (visit' a t).2
    simp only [run]
    cases hv : (visit a s).1 with
    | error e =>
      -- what is decided nevertheless is decided by a true branch further on
      have hnext : j.next u (.error e) = .goesOn (some (u.getD e)) := by cases u <;> rfl
      simp only [hnext]
      intro b hb
      obtain ⟨rfl, rfl⟩ := run_some_ok hb
      cases hv' : (visit' a t).1 with
      | error e' => exact hrest (some (u.getD e)) _ (fun he => by cases he) true hb
      | ok c =>
        cases c with
        | true => rfl
        | false => exact hrest (some (u.getD e)) _ (fun he => by cases he) true hb
    | ok c =>
      rw [hv] at ha
      -- a branch that was decided is decided alike, so both runs stop here or both go on
      rw [ha.ok]
      cases j with
      | any =>
        cases c with
        | true => exact .refl _
        | false => exact hrest _ _ hu
      | all =>
        cases c with
        | true => exact hrest _ _ hu
        | false =>
          cases u with
          | none =>
            rw [hu rfl]
            exact .refl _
          | some e =>
            intro b hb
            cases (run_some_ok hb).1

lemma Cohort.judge_upheld {leaf : LeafJudge σ} {leaf' : LeafJudge τ} (tree : Cohort)
    (h : ∀ c ∈ tree.conditions, ∀ s t, Upheld (leaf c s).1 (leaf' c t).1) (s : σ) (t : τ) :
    Upheld (tree.judge leaf s).1 (tree.judge leaf' t).1 := by
  induction tree using Cohort.induction generalizing s t with
  | nodes j children ih =>
    simp only [conditions, mem_conditionsOf] at h
    simp only [judge, judgeChildren_eq_run]
    split
    · exact .refl _
    · exact j.run_upheld (fun tree ht => ih tree ht fun c hc => h c ⟨tree, ht, hc⟩) none none id s t
  | leaves j conditions =>
    simp only [Cohort.conditions] at h
    simp only [judge]
    split
    · exact .refl _
    · exact j.run_upheld h none none id s t

variable {leaf leaf' : LeafJudge Unit}

lemma ConditionGroup.judge_upheld (flagKey identity : String) (g : ConditionGroup)
    (h : ∀ c ∈ g.conditions.getD [], Upheld (leaf c ()).1 (leaf' c ()).1) :
    Upheld (g.judge leaf flagKey identity ()).1 (g.judge leaf' flagKey identity ()).1 := by
  simp only [judge]
  split
  · exact .refl _
  · have hrun := Junction.all.run_upheld (fun c hc _ _ => h c hc) none none id () ()
    rcases hrun.outcomes with ⟨e, hx⟩ | ⟨b, hx, hy⟩
    · rw [hx]
      exact upheld_error _ _
    · rw [hx, hy]
      exact .refl _

end Structure

/-! ### Flags -/

/-- A group is the first of a list to let the identity in; those before it are listed. -/
structure FirstMatch (judge : ConditionGroup → Except Undecided MatchReason)
    (groups earlier : List (Nat × ConditionGroup)) (g : Nat × ConditionGroup) : Prop where
  split : ∃ later, groups = earlier ++ g :: later
  matches_self : judge g.2 = .ok .conditionMatch
  not_earlier : ∀ h ∈ earlier, judge h.2 ≠ .ok .conditionMatch

/-- Every group that is passed over as undecided before the first one that lets the identity in,
and lets it in when judged anew, shows the same variant. -/
def AgreeOnVariant (judge judge' : ConditionGroup → Except Undecided MatchReason)
    (variant : ConditionGroup → Option String) (groups : List (Nat × ConditionGroup)) : Prop :=
  ∀ earlier g, FirstMatch judge groups earlier g → ∀ h ∈ earlier, (judge h.2).toOption = none →
    judge' h.2 = .ok .conditionMatch → variant h.2 = variant g.2

section FirstMatch

variable {judge judge' judge₁ judge₁' : ConditionGroup → Except Undecided MatchReason}
  {variant : ConditionGroup → Option String} {groups earlier : List (Nat × ConditionGroup)}
  {g h : Nat × ConditionGroup}

lemma FirstMatch.head (hg : judge g.2 = .ok .conditionMatch) :
    FirstMatch judge (g :: groups) [] g :=
  ⟨⟨groups, rfl⟩, hg, List.forall_mem_nil _⟩

lemma FirstMatch.cons (hg : FirstMatch judge groups earlier g)
    (hh : judge h.2 ≠ .ok .conditionMatch) : FirstMatch judge (h :: groups) (h :: earlier) g := by
  obtain ⟨⟨later, rfl⟩, hself, hearlier⟩ := hg
  exact ⟨⟨later, rfl⟩, hself, List.forall_mem_cons.2 ⟨hh, hearlier⟩⟩

lemma FirstMatch.congr (hjudge : ∀ k ∈ groups, (judge k.2).toOption = (judge₁ k.2).toOption)
    (hg : FirstMatch judge groups earlier g) : FirstMatch judge₁ groups earlier g := by
  obtain ⟨⟨later, rfl⟩, hself, hearlier⟩ := hg
  refine ⟨⟨later, rfl⟩, ok_of_toOption_eq (hjudge g (by simp)) hself, fun k hk hmatch => ?_⟩
  exact hearlier k hk (ok_of_toOption_eq (hjudge k (List.mem_append_left _ hk)).symm hmatch)

lemma AgreeOnVariant.congr (hjudge : ∀ k ∈ groups, (judge k.2).toOption = (judge₁ k.2).toOption)
    (hjudge' : ∀ k ∈ groups, (judge' k.2).toOption = (judge₁' k.2).toOption)
    (hagree : AgreeOnVariant judge judge' variant groups) :
    AgreeOnVariant judge₁ judge₁' variant groups := by
  intro earlier g hg k hk hundecided hmatch
  obtain ⟨later, rfl⟩ := hg.split
  have hmem : k ∈ earlier ++ g :: later := List.mem_append_left _ hk
  refine hagree earlier g (hg.congr fun j hj => (hjudge j hj).symm) k hk ?_
    (ok_of_toOption_eq (hjudge' k hmem).symm hmatch)
  rw [hjudge k hmem, hundecided]

lemma AgreeOnVariant.tail (hagree : AgreeOnVariant judge judge' variant (h :: groups))
    (hh : judge h.2 ≠ .ok .conditionMatch) : AgreeOnVariant judge judge' variant groups :=
  fun earlier g hg k hk => hagree (h :: earlier) g (hg.cons hh) k (List.mem_cons_of_mem _ hk)

end FirstMatch

namespace Flag

variable {leaf leaf' : LeafJudge Unit} {f : Flag} {identity : String}

/-- After an undecided group, a flag is only ever decided by a group that lets the identity in. -/
lemma tryGroups_some_ok {groups : List (Nat × ConditionGroup)} {found : Findings}
    (hfound : found.undecided ≠ none) {m : FlagMatch}
    (h : (tryGroups leaf f identity found groups ()).1 = .ok m) :
    ∃ earlier g, FirstMatch (fun g => (g.judge leaf f.key identity ()).1) groups earlier g ∧
      m = .on f (f.variantBy identity g.2) g.1 := by
  induction groups generalizing found with
  | nil =>
    obtain ⟨e, he⟩ := Option.ne_none_iff_exists'.1 hfound
    simp only [tryGroups, Findings.outcome, he] at h
    cases h
  | cons g rest ih =>
    -- every group that does not let the identity in leaves an undecided one noted
    by_cases hmatch : (g.2.judge leaf f.key identity ()).1 = .ok .conditionMatch
    · rw [tryGroups_match hmatch] at h
      exact ⟨[], g, .head hmatch, (Except.ok.inj h).symm⟩
    · have hrest : ∃ earlier g, FirstMatch (fun g => (g.judge leaf f.key identity ()).1)
          rest earlier g ∧ m = .on f (f.variantBy identity g.2) g.1 := by
        cases hg : (g.2.judge leaf f.key identity ()).1 with
        | error e =>
          rw [tryGroups_undecided hg] at h
          exact ih (found.noteUndecided_ne_none e) h
        | ok reason =>
          rw [tryGroups_off hg fun hr => hmatch (hr ▸ hg)] at h
          exact ih (by rwa [found.noteReason_undecided]) h
      obtain ⟨earlier, k, hk, hm⟩ := hrest
      exact ⟨g :: earlier, k, hk.cons hmatch, hm⟩

/-- A group that lets the identity in now shows what a later one has shown. -/
lemma value_eq_of_agree {g : Nat × ConditionGroup} {rest : List (Nat × ConditionGroup)}
    (hagree : AgreeOnVariant (fun g => (g.judge leaf f.key identity ()).1)
      (fun g => (g.judge leaf' f.key identity ()).1) (f.variantBy identity) (g :: rest))
    {e : Undecided} (hg : (g.2.judge leaf f.key identity ()).1 = .error e)
    (hg' : (g.2.judge leaf' f.key identity ()).1 = .ok .conditionMatch)
    {found : Findings} (hfound : found.undecided ≠ none) {m : FlagMatch}
    (hm : (tryGroups leaf f identity found rest ()).1 = .ok m) :
    (FlagMatch.on f (f.variantBy identity g.2) g.1).value = m.value := by
  obtain ⟨earlier, k, hk, rfl⟩ := tryGroups_some_ok hfound hm
  have hne : (g.2.judge leaf f.key identity ()).1 ≠ .ok .conditionMatch := by
    rw [hg]
    intro he
    cases he
  have hundecided : (g.2.judge leaf f.key identity ()).1.toOption = none := by
    rw [hg]
    rfl
  rw [hagree (g :: earlier) k (hk.cons hne) g List.mem_cons_self hundecided hg']
  rfl

/-- A flag keeps its value if its groups keep what they say, and those that were undecided and now
let the identity in show the variant of the group that let it in before. -/
lemma tryGroups_upheld {groups : List (Nat × ConditionGroup)}
    (h : ∀ g ∈ groups, Upheld (g.2.judge leaf f.key identity ()).1
      (g.2.judge leaf' f.key identity ()).1)
    (hagree : AgreeOnVariant (fun g => (g.judge leaf f.key identity ()).1)
      (fun g => (g.judge leaf' f.key identity ()).1) (f.variantBy identity) groups)
    (found found' : Findings) (hfound : found.undecided = none → found' = found) :
    Upheld ((tryGroups leaf f identity found groups ()).1.map FlagMatch.value)
      ((tryGroups leaf' f identity found' groups ()).1.map FlagMatch.value) := by
  induction groups generalizing found found' with
  | nil =>
    cases hu : found.undecided with
    | some e =>
      simp only [tryGroups, Findings.outcome, hu]
      exact upheld_error _ _
    | none =>
      rw [hfound hu]
      exact .refl _
  | cons g rest ih =>
    have hg := h g List.mem_cons_self
    have hrest := fun found found' hne =>
      ih (fun k hk => h k (List.mem_cons_of_mem _ hk)) (hagree.tail hne) found found'
    -- only an undecided group can turn, and what was decided then came from a match further on
    by_cases hmatch : (g.2.judge leaf f.key identity ()).1 = .ok .conditionMatch
    · rw [tryGroups_match hmatch, tryGroups_match (hg _ hmatch)]
      exact .refl _
    · cases hj : (g.2.judge leaf f.key identity ()).1 with
      | ok reason =>
        have hne : reason ≠ .conditionMatch := fun hr => hmatch (hr ▸ hj)
        rw [tryGroups_off hj hne, tryGroups_off (hg _ hj) hne]
        refine hrest _ _ hmatch fun hu => ?_
        rw [found.noteReason_undecided] at hu
        rw [hfound hu]
      | error e =>
        have hundecided := found.noteUndecided_ne_none e
        rw [tryGroups_undecided hj]
        cases hj' : (g.2.judge leaf' f.key identity ()).1 with
        | error e' =>
          rw [tryGroups_undecided hj']
          exact hrest _ _ hmatch fun hu => absurd hu hundecided
        | ok reason =>
          by_cases hr : reason = .conditionMatch
          · subst hr
            intro value hvalue
            rw [tryGroups_match hj']
            -- the group matches now, so it has to show what the later match has shown
            cases hm : (tryGroups leaf f identity (found.noteUndecided e) rest ()).1 with
            | error e =>
              rw [hm] at hvalue
              cases hvalue
            | ok m =>
              rw [hm] at hvalue
              exact (congrArg _ (value_eq_of_agree hagree hj hj' hundecided hm)).trans hvalue
          · rw [tryGroups_off hj' hr]
            exact hrest _ _ hmatch fun hu => absurd hu hundecided

lemma evaluate_upheld
    (h : ∀ c ∈ f.conditions, Upheld (leaf c ()).1 (leaf' c ()).1)
    (hagree : AgreeOnVariant (fun g => (g.judge leaf f.key identity ()).1)
      (fun g => (g.judge leaf' f.key identity ()).1) (f.variantBy identity) f.orderedGroups) :
    Upheld ((f.evaluate leaf identity ()).1.map FlagMatch.value)
      ((f.evaluate leaf' identity ()).1.map FlagMatch.value) := by
  simp only [evaluate]
  split
  · exact .refl _
  · split
    · exact .refl _
    · refine tryGroups_upheld (fun g hg => ?_) hagree {} {} fun _ => rfl
      exact g.2.judge_upheld f.key identity fun c hc =>
        h c (mem_conditions_of_mem_group (mem_groups_of_mem_orderedGroups hg) hc)

end Flag

/-! ### Conditions -/

/-- Properties have others at least: what is known by the first is known by the second. -/
def Dict.Extends (properties' properties : Dict Json) : Prop :=
  ∀ key value, properties.get? key = some value → properties'.get? key = some value

lemma Condition.test_upheld {properties properties' : Dict Json}
    (h : properties'.Extends properties) (now : Calendar.Instant) (c : Condition) :
    Upheld (c.test now properties) (c.test now properties') := by
  cases hvalue : properties.get? c.key with
  | none =>
    simp only [test, hvalue]
    exact upheld_error _ _
  | some value =>
    simp only [test, hvalue, h c.key value hvalue]
    exact .refl _

section Dependencies

variable {ask ask' : String → Unit → Except Undecided FlagValue × Unit} {c : Condition}

lemma askChain_upheld {chain : List String}
    (h : ∀ key ∈ chain, Upheld (ask key ()).1 (ask' key ()).1) :
    Upheld (askChain ask chain ()).1 (askChain ask' chain ()).1 := by
  induction chain with
  | nil => exact .refl _
  | cons key rest ih =>
    have hkey := h key List.mem_cons_self
    have hrest := ih fun k hk => h k (List.mem_cons_of_mem key hk)
    simp only [askChain]
    rcases hkey.outcomes with ⟨e, hx⟩ | ⟨value, hx, hy⟩
    · rw [hx]
      exact upheld_error _ _
    · rw [hx, hy]
      by_cases hv : value.isTruthy
      · simpa only [if_pos hv] using hrest
      · simp only [if_neg hv]
        exact .refl _

lemma Condition.checkDependency_upheld {actual actual' : Option FlagValue}
    (h : c.literal ≠ none → ∀ value, actual = some value → actual' = some value) :
    Upheld (c.checkDependency actual) (c.checkDependency actual') := by
  cases hl : c.literal with
  | none =>
    simp only [checkDependency, hl]
    exact .refl _
  | some expected =>
    cases ha : actual with
    | none =>
      simp only [checkDependency, hl]
      exact upheld_error _ _
    | some value =>
      rw [h (by simp [hl]) value ha]
      exact .refl _

lemma Condition.judgeDependency_upheld (hkey : c.ListsOwnKey) (hc : c.subject = .flag)
    (h : ∀ chain, c.dependencyChain = some chain → ∀ key ∈ chain,
      Upheld (ask key ()).1 (ask' key ()).1) :
    Upheld (c.judgeDependency ask (fun s key => (ask key s).1.toOption) ()).1
      (c.judgeDependency ask' (fun s key => (ask' key s).1.toOption) ()).1 := by
  simp only [judgeDependency]
  split
  · exact .refl _
  · exact .refl _
  · rename_i chain hne hchain
    rcases (askChain_upheld (h chain hchain)).outcomes with ⟨e, hx⟩ | ⟨b, hx, hy⟩
    · rw [hx]
      exact upheld_error _ _
    · rw [hx, hy]
      cases b with
      | false => exact .refl _
      | true =>
        refine checkDependency_upheld fun hl value hvalue => ?_
        exact (h chain hchain c.key (hkey hc hl chain hchain hne)).toOption hvalue

end Dependencies

namespace Rules

lemma turn_upheld (c : Condition) {v w : Verdict} (h : Upheld v w) :
    Upheld (turn c v) (turn c w) := by
  cases v with
  | error e => exact upheld_error _ _
  | ok b =>
    rw [h.ok]
    exact .refl _

section Leaves

variable {σ τ : Type} {rules rules' : Rules} {who : Identity} {leaf onFlag : LeafJudge σ}
  {leaf' onFlag' : LeafJudge τ}

lemma judgeCohort_upheld (c : Condition)
    (hrules : ∀ id tree, rules.cohorts.get? id = some tree → rules'.cohorts.get? id = some tree)
    (h : ∀ tree, rules.cohorts.get? c.cohortId = some tree → ∀ d ∈ tree.conditions, ∀ s t,
      Upheld (leaf d s).1 (leaf' d t).1) (s : σ) (t : τ) :
    Upheld (rules.judgeCohort leaf c s).1 (rules'.judgeCohort leaf' c t).1 := by
  simp only [judgeCohort]
  cases htree : rules.cohorts.get? c.cohortId with
  | none => exact upheld_error _ _
  | some tree =>
    simp only [hrules _ _ htree]
    have hrun := tree.judge_upheld (h tree htree) s t
    generalize tree.judge leaf s = x at hrun ⊢
    generalize tree.judge leaf' t = y at hrun ⊢
    obtain ⟨e | b, s⟩ := x
    · exact upheld_error _ _
    · obtain ⟨w, t⟩ := y
      obtain rfl : w = .ok b := hrun.ok
      exact .refl _

/-- A leaf keeps its verdict if the conditions that it refers to do, also when cohorts are
added. -/
lemma judgeLeafBy_upheld {properties : Dict Json} (h : properties.Extends who.properties)
    (hrules : ∀ id tree, rules.cohorts.get? id = some tree → rules'.cohorts.get? id = some tree)
    (c : Condition)
    (hleaf : c.subject = .cohort → ∀ tree, rules.cohorts.get? c.cohortId = some tree →
      ∀ d ∈ tree.conditions, ∀ s t, Upheld (leaf d s).1 (leaf' d t).1) (s : σ) (t : τ)
    (hflag : c.subject = .flag → Upheld (onFlag c s).1 (onFlag' c t).1) :
    Upheld (rules.judgeLeafBy who leaf onFlag c s).1
      (rules'.judgeLeafBy { who with properties } leaf' onFlag' c t).1 := by
  simp only [judgeLeafBy]
  split
  · exact turn_upheld c (c.test_upheld h who.now)
  · rename_i hc
    exact turn_upheld c (judgeCohort_upheld c hrules (hleaf hc) s t)
  · rename_i hc
    exact turn_upheld c (hflag hc)

end Leaves

variable {rules : Rules} {who : Identity} {leaf leaf' : LeafJudge Unit}

lemma askAfresh_upheld {key : String}
    (h : ∀ f, rules.flags.get? key = some f → ∀ c ∈ f.conditions,
      Upheld (leaf c ()).1 (leaf' c ()).1)
    (hagree : ∀ f, rules.flags.get? key = some f →
      AgreeOnVariant (fun g => (g.judge leaf f.key who.key ()).1)
        (fun g => (g.judge leaf' f.key who.key ()).1) (f.variantBy who.key) f.orderedGroups) :
    Upheld (askAfresh leaf rules.flags who.key key ()).1
      (askAfresh leaf' rules.flags who.key key ()).1 := by
  simp only [askAfresh]
  cases hf : rules.flags.get? key with
  | none => exact .refl _
  | some f =>
    simp only
    split
    · exact .refl _
    · have hrun := f.evaluate_upheld (h f hf) (hagree f hf)
      generalize f.evaluate leaf who.key () = x at hrun ⊢
      generalize f.evaluate leaf' who.key () = y at hrun ⊢
      obtain ⟨e | m, s⟩ := x
      · exact upheld_error _ _
      · obtain ⟨e' | m', t⟩ := y
        · cases hrun.ok
        · intro value hvalue
          exact hrun.ok.trans hvalue

end Rules

end FeatureFlags
