import FeatureFlags.Proofs.Lockstep

/-!
# What outcomes show

The way back through an evaluation: what its outcome shows about the steps that led to it. A flag
that is on has a group all of whose conditions were true when they were judged, and a condition on
a flag that is true has a chain that was on.
-/

namespace FeatureFlags

variable {σ : Type} {I : σ → Prop}

/-! ### Junctions -/

namespace Junction

variable {α : Type} {visit : α → σ → Verdict × σ} {l : List α} {s : σ}

/-- With an undecided branch, a junction is only ever decided by a true one. -/
lemma run_some_ok {j : Junction} {e : Undecided} {b : Bool}
    (h : (j.run visit (some e) l s).1 = .ok b) : j = .any ∧ b = true := by
  induction l generalizing s with
  | nil => cases h
  | cons a rest ih =>
    simp only [run] at h
    cases hv : (visit a s).1 with
    | error e' => exact ih (by simpa [hv, next] using h)
    | ok c =>
      cases j with
      | all => exact ih (by cases c <;> simpa [hv, next] using h)
      | any =>
        cases c with
        | false => exact ih (by simpa [hv, next] using h)
        | true =>
          simp only [hv, next] at h
          exact ⟨rfl, (Except.ok.inj h).symm⟩

/-- All branches of an all-of junction that is true were true when they were visited. -/
lemma of_all_run_true (hkeep : ∀ a ∈ l, ∀ s, I s → I (visit a s).2) (hs : I s)
    (h : (Junction.all.run visit none l s).1 = .ok true) :
    ∀ a ∈ l, ∃ t, I t ∧ (visit a t).1 = .ok true := by
  induction l generalizing s with
  | nil => exact List.forall_mem_nil _
  | cons a rest ih =>
    have hs' := hkeep a List.mem_cons_self s hs
    have hrest := fun b hb => hkeep b (List.mem_cons_of_mem a hb)
    cases hv : (visit a s).1 with
    | error e =>
      have hnext : Junction.all.next none (.error e) = .goesOn (some e) := rfl
      simp only [run, hv, hnext] at h
      cases (run_some_ok h).1
    | ok b =>
      cases b with
      | false => simp [run, hv, next] at h
      | true =>
        simp only [run, hv, next] at h
        exact List.forall_mem_cons.2 ⟨⟨s, hs, hv⟩, ih hrest hs' h⟩

end Junction

/-! ### Groups -/

section Groups

variable {leaf : LeafJudge σ}

lemma ConditionGroup.judge_keeps (flagKey identity : String) (g : ConditionGroup)
    (hkeep : ∀ c ∈ g.conditions.getD [], ∀ s, I s → I (leaf c s).2) {s : σ} (hs : I s) :
    I (g.judge leaf flagKey identity s).2 :=
  Lockstep.keeps (g.judge_lockstep flagKey identity
    (fun c hc => lockstep_twin_of_keeps (hkeep c hc)) ⟨rfl, hs⟩)

/-- All conditions of a group that lets an identity in were true when they were judged. -/
lemma ConditionGroup.of_judge_match (flagKey identity : String) (g : ConditionGroup)
    (hkeep : ∀ c ∈ g.conditions.getD [], ∀ s, I s → I (leaf c s).2) {s : σ} (hs : I s)
    (h : (g.judge leaf flagKey identity s).1 = .ok .conditionMatch) :
    ∀ c ∈ g.conditions.getD [], ∃ t, I t ∧ (leaf c t).1 = .ok true := by
  refine Junction.of_all_run_true hkeep hs ?_
  simp only [judge] at h
  split at h
  · rename_i hnil
    rw [hnil]
    rfl
  · generalize Junction.all.run leaf none (g.conditions.getD []) s = x at h ⊢
    obtain ⟨e | b, t⟩ := x
    · cases h
    · cases b with
      | false => cases h
      | true => rfl

namespace Flag

variable {f : Flag} {identity : String} {g : Nat × ConditionGroup}
  {rest : List (Nat × ConditionGroup)} {found : Findings} {s : σ} {m : FlagMatch}

lemma tryGroups_match (h : (g.2.judge leaf f.key identity s).1 = .ok .conditionMatch) :
    (tryGroups leaf f identity found (g :: rest) s).1 =
      .ok (.on f (f.variantBy identity g.2) g.1) := by
  simp only [tryGroups]
  generalize g.2.judge leaf f.key identity s = x at h ⊢
  obtain ⟨v, t⟩ := x
  obtain rfl : v = _ := h
  rfl

lemma tryGroups_off {reason : MatchReason} (h : (g.2.judge leaf f.key identity s).1 = .ok reason)
    (hne : reason ≠ .conditionMatch) :
    tryGroups leaf f identity found (g :: rest) s =
      tryGroups leaf f identity (found.noteReason reason g.1) rest
        (g.2.judge leaf f.key identity s).2 := by
  simp only [tryGroups]
  generalize g.2.judge leaf f.key identity s = x at h ⊢
  obtain ⟨v, t⟩ := x
  obtain rfl : v = _ := h
  cases reason with
  | conditionMatch => exact absurd rfl hne
  | noConditionMatch | outOfRollout | noGroupType | disabled => rfl

lemma tryGroups_undecided {e : Undecided} (h : (g.2.judge leaf f.key identity s).1 = .error e) :
    tryGroups leaf f identity found (g :: rest) s =
      tryGroups leaf f identity (found.noteUndecided e) rest
        (g.2.judge leaf f.key identity s).2 := by
  simp only [tryGroups]
  generalize g.2.judge leaf f.key identity s = x at h ⊢
  obtain ⟨v, t⟩ := x
  obtain rfl : v = _ := h
  rfl

lemma Findings.noteReason_undecided (found : Findings) (reason : MatchReason) (i : Nat) :
    (found.noteReason reason i).undecided = found.undecided := by
  simp only [noteReason]
  split
  · rfl
  · rfl

lemma Findings.noteUndecided_ne_none (found : Findings) (e : Undecided) :
    (found.noteUndecided e).undecided ≠ none := by
  cases hu : found.undecided with
  | none => simp [noteUndecided, hu]
  | some e' => simp [noteUndecided, hu]

lemma Findings.eq_off_of_outcome (h : found.outcome = .ok m) :
    m = .off found.reason found.groupIndex := by
  simp only [outcome] at h
  split at h
  · cases h
  · exact (Except.ok.inj h).symm

lemma tryGroups_isMatch {groups : List (Nat × ConditionGroup)}
    (hkeep : ∀ g ∈ groups, ∀ c ∈ g.2.conditions.getD [], ∀ s, I s → I (leaf c s).2) (hs : I s)
    (h : (tryGroups leaf f identity found groups s).1 = .ok m)
    (hm : m.isMatch = true) :
    ∃ g ∈ groups, ∀ c ∈ g.2.conditions.getD [], ∃ t, I t ∧ (leaf c t).1 = .ok true := by
  induction groups generalizing found s with
  | nil =>
    rw [Findings.eq_off_of_outcome h] at hm
    cases hm
  | cons g rest ih =>
    have hg := hkeep g List.mem_cons_self
    have hrest := fun k hk => hkeep k (List.mem_cons_of_mem g hk)
    have hs' := g.2.judge_keeps f.key identity hg hs
    -- whatever becomes of a group that does not let the identity in, a later one has to
    by_cases hmatch : (g.2.judge leaf f.key identity s).1 = .ok .conditionMatch
    · exact ⟨g, List.mem_cons_self, g.2.of_judge_match f.key identity hg hs hmatch⟩
    · have hlater : ∃ k ∈ rest, ∀ c ∈ k.2.conditions.getD [],
          ∃ t, I t ∧ (leaf c t).1 = .ok true := by
        cases hv : (g.2.judge leaf f.key identity s).1 with
        | error e =>
          rw [tryGroups_undecided hv] at h
          exact ih hrest hs' h
        | ok reason =>
          rw [tryGroups_off hv fun hr => hmatch (hr ▸ hv)] at h
          exact ih hrest hs' h
      obtain ⟨k, hk, hall⟩ := hlater
      exact ⟨k, List.mem_cons_of_mem g hk, hall⟩

/-- A flag that is on has a group all of whose conditions were true when they were judged. -/
lemma evaluate_isMatch (hkeep : ∀ c ∈ f.conditions, ∀ s, I s → I (leaf c s).2) (hs : I s)
    (h : (f.evaluate leaf identity s).1 = .ok m) (hm : m.isMatch = true) :
    ∃ g ∈ f.groups, ∀ c ∈ g.conditions.getD [], ∃ t, I t ∧ (leaf c t).1 = .ok true := by
  simp only [evaluate] at h
  split at h
  · cases h
    cases hm
  · split at h
    · cases h
    · have hgroups : ∀ g ∈ f.orderedGroups, g.2 ∈ f.groups := fun g hg =>
        mem_groups_of_mem_orderedGroups hg
      obtain ⟨g, hg, hall⟩ := tryGroups_isMatch (fun g hg c hc =>
        hkeep c (mem_conditions_of_mem_group (hgroups g hg) hc)) hs h hm
      exact ⟨g.2, hgroups g hg, hall⟩

/-- A flag that is on is on by a group, with the variant that the group gives. -/
lemma eq_on_or_off_of_tryGroups {groups : List (Nat × ConditionGroup)}
    (h : (tryGroups leaf f identity found groups s).1 = .ok m) :
    (∃ g ∈ groups, m = .on f (f.variantBy identity g.2) g.1) ∨ ∃ reason i, m = .off reason i := by
  induction groups generalizing found s with
  | nil => exact .inr ⟨_, _, Findings.eq_off_of_outcome h⟩
  | cons g rest ih =>
    have hlater {found t} (h : (tryGroups leaf f identity found rest t).1 = .ok m) :
        (∃ k ∈ g :: rest, m = .on f (f.variantBy identity k.2) k.1) ∨
          ∃ reason i, m = .off reason i :=
      (ih h).imp_left fun ⟨k, hk, hm⟩ => ⟨k, List.mem_cons_of_mem g hk, hm⟩
    cases hg : (g.2.judge leaf f.key identity s).1 with
    | error e =>
      rw [tryGroups_undecided hg] at h
      exact hlater h
    | ok reason =>
      by_cases hreason : reason = .conditionMatch
      · subst hreason
        rw [tryGroups_match hg] at h
        exact .inl ⟨g, List.mem_cons_self, (Except.ok.inj h).symm⟩
      · rw [tryGroups_off hg hreason] at h
        exact hlater h

lemma eq_on_or_off_of_evaluate (h : (f.evaluate leaf identity s).1 = .ok m) :
    (∃ g ∈ f.orderedGroups, m = .on f (f.variantBy identity g.2) g.1) ∨
      ∃ reason i, m = .off reason i := by
  simp only [evaluate] at h
  split at h
  · exact .inr ⟨_, _, (Except.ok.inj h).symm⟩
  · split at h
    · cases h
    · exact eq_on_or_off_of_tryGroups h

end Flag

end Groups

/-! ### Conditions on flags -/

lemma Memo.value?_eq_some_iff {memo : Memo} {key : String} {value : FlagValue} :
    memo.value? key = some value ↔ memo.get? key = some (.settled value) := by
  rw [value?]
  split
  · rename_i heq
    simp [heq]
  · rename_i hne
    simpa using hne value

lemma askKnown_ok {settle : String → σ → Except Undecided Unit × σ} {known : σ → Memo}
    {key : String} {s : σ} {value : FlagValue} (h : (askKnown settle known key s).1 = .ok value) :
    (known (askKnown settle known key s).2).value? key = some value := by
  simp only [askKnown] at h ⊢
  generalize (if (known s).contains key then (Except.ok (), s) else settle key s) = x at h ⊢
  obtain ⟨e | ⟨⟩, t⟩ := x
  · cases h
  · simp only at h ⊢
    cases hvalue : (known t).value? key with
    | none => simp [hvalue] at h
    | some v => simpa [hvalue] using h

lemma Condition.judgeDependency_true {ask : String → σ → Except Undecided FlagValue × σ}
    {value? : σ → String → Option FlagValue} {c : Condition} {s : σ}
    (h : (c.judgeDependency ask value? s).1 = .ok true) :
    ∃ chain, c.dependencyChain = some chain ∧ (askChain ask chain s).1 = .ok true := by
  simp only [judgeDependency] at h
  split at h
  · cases h
  · cases h
  · rename_i chain hne hchain
    refine ⟨chain, hchain, ?_⟩
    split at h
    · rename_i t hrun
      rw [hrun]
    · exact h

/-- Ask for the value of a flag by how the conditions of flags are judged. -/
def Rules.ask (rules : Rules) (who : Identity) (leaf : LeafJudge Memo) :
    String → Memo → Except Undecided FlagValue × Memo :=
  askKnown (settle leaf rules.flags who.key) id

end FeatureFlags
