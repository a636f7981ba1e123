import FeatureFlags.Proofs.Lockstep
import Mathlib.Data.List.Perm.Basic

/-!
# What junctions come to

A junction is described by the verdicts that its branches would give if all of them were visited:
what it comes to, and how many of the branches it reads. Any-of comes to true if some branch is
true, else to the first undecided one, else to false, and it reads up to the first true branch.
All-of comes to the first branch that is not true, and it reads up to that branch only if it is
false.

Main statement: a junction meets this description on every list of verdicts, and on branches that
change a state it leaves the state of the last branch that it reads. So branches may be grouped, and
the order of branches does not matter to what any-of decides.
-/

namespace FeatureFlags

variable {σ α β : Type}

/-! ### Visits -/

/-- One visit of many: what is visited, what it answers, and the state that it leaves. -/
structure Visit (α β σ : Type) where
  item : α
  answer : β
  after : σ

/-- Visit all of a list in turn, each from the state that the one before has left. -/
def visitAll (visit : α → σ → β × σ) : List α → σ → List (Visit α β σ)
  | [], _ => []
  | a :: rest, s => ⟨a, (visit a s).1, (visit a s).2⟩ :: visitAll visit rest (visit a s).2

lemma exists_mem_visitAll {visit : α → σ → β × σ} {l : List α} {s : σ} {a : α} (h : a ∈ l) :
    ∃ v ∈ visitAll visit l s, v.item = a := by
  induction l generalizing s with
  | nil => cases h
  | cons b rest ih =>
    rcases List.mem_cons.1 h with rfl | h
    · exact ⟨_, List.mem_cons_self, rfl⟩
    · obtain ⟨v, hv, hitem⟩ := ih h
      exact ⟨v, List.mem_cons_of_mem _ hv, hitem⟩

/-- What comes after the first visit of a kind may be anything. -/
lemma exists_append_of_find?_visitAll {visit : α → σ → β × σ} {p : Visit α β σ → Bool}
    {v : Visit α β σ} {l : List α} {s : σ} (h : (visitAll visit l s).find? p = some v) :
    ∃ before later, l = before ++ v.item :: later ∧
      ∀ later', (visitAll visit (before ++ v.item :: later') s).find? p = some v := by
  induction l generalizing s with
  | nil => cases h
  | cons a rest ih =>
    simp only [visitAll, List.find?_cons] at h
    split at h
    · rename_i hp
      obtain rfl := Option.some.inj h
      refine ⟨[], rest, rfl, fun later' => ?_⟩
      simp only [List.nil_append, visitAll, List.find?_cons, hp]
    · rename_i hp
      obtain ⟨before, later, rfl, hlater⟩ := ih h
      refine ⟨a :: before, later, rfl, fun later' => ?_⟩
      simp only [List.cons_append, visitAll, List.find?_cons, hp]
      exact hlater later'

/-- The state that visits have left. -/
def stateAfter (s : σ) (visits : List (Visit α β σ)) : σ :=
  (visits.getLast?.map Visit.after).getD s

lemma stateAfter_cons (s : σ) (v : Visit α β σ) (visits : List (Visit α β σ)) :
    stateAfter s (v :: visits) = stateAfter v.after visits := by
  cases visits with
  | nil => rfl
  | cons w rest => simp [stateAfter, List.getLast?_cons]

/-- The reason for being undecided, if there is one. -/
def reason? : Except Undecided α → Option Undecided
  | .error e => some e
  | .ok _ => none

lemma findSome?_reason?_error {e : Undecided} {l : List (Except Undecided α)} :
    (.error e :: l).findSome? reason? = some e := rfl

lemma findSome?_reason?_ok {a : α} {l : List (Except Undecided α)} :
    (.ok a :: l).findSome? reason? = l.findSome? reason? := rfl

namespace Junction

/-! ### The description -/

/-- What a junction comes to, by the verdicts of all its branches. -/
def outcome : Junction → List Verdict → Verdict
  | .any, verdicts =>
    if .ok true ∈ verdicts then .ok true
    else (verdicts.findSome? reason?).elim (.ok false) .error
  | .all, verdicts => (verdicts.find? (· ≠ .ok true)).getD (.ok true)

/-- How many branches a junction reads, by the verdicts of all its branches. -/
def reads : Junction → List Verdict → Nat
  | .any, verdicts => min (verdicts.idxOf (.ok true) + 1) verdicts.length
  | .all, verdicts =>
    if verdicts.find? (· ≠ .ok true) = some (.ok false) then verdicts.idxOf (.ok false) + 1
    else verdicts.length

section Cons

variable {verdicts : List Verdict}

lemma reads_any_true : any.reads (.ok true :: verdicts) = 1 := by
  simp [reads]

lemma reads_any_of_ne {v : Verdict} (h : v ≠ .ok true) :
    any.reads (v :: verdicts) = any.reads verdicts + 1 := by
  simp [reads, h]

lemma reads_all_true : all.reads (.ok true :: verdicts) = all.reads verdicts + 1 := by
  have hfind : (.ok true :: verdicts).find? (· ≠ .ok true) = verdicts.find? (· ≠ .ok true) := rfl
  have hidx : (.ok true :: verdicts : List Verdict).idxOf (.ok false) =
      verdicts.idxOf (.ok false) + 1 := by simp
  simp only [reads, hfind, hidx, List.length_cons]
  split
  · rfl
  · rfl

lemma reads_all_false : all.reads (.ok false :: verdicts) = 1 := by
  simp [reads]

lemma reads_all_error (e : Undecided) : all.reads (.error e :: verdicts) = verdicts.length + 1 := by
  simp [reads]

end Cons

lemma reads_le_length (j : Junction) (verdicts : List Verdict) :
    j.reads verdicts ≤ verdicts.length := by
  cases j with
  | any => exact Nat.min_le_right _ _
  | all =>
    simp only [reads]
    split
    · rename_i hfind
      exact Nat.succ_le_of_lt (List.idxOf_lt_length_of_mem (List.mem_of_find?_eq_some hfind))
    · exact Nat.le_refl _

/-! ### Junctions meet it -/

section Run

variable {visit : α → σ → Verdict × σ}

/-- Branches that were undecided before count as the first that are undecided. -/
lemma any_run_eq (undecided : Option Undecided) (l : List α) (s : σ) :
    let visits := visitAll visit l s
    let verdicts := visits.map Visit.answer
    any.run visit undecided l s =
      (if .ok true ∈ verdicts then .ok true
        else (undecided <|> verdicts.findSome? reason?).elim (.ok false) .error,
      stateAfter s (visits.take (any.reads verdicts))) := by
  -- what was undecided before goes first, so the induction is over all of that
  induction l generalizing undecided s with
  | nil => cases undecided <;> rfl
  | cons a rest ih =>
    simp only [run, visitAll, List.map_cons]
    cases hv : (visit a s).1 with
    | error e =>
      have hne : (.error e : Verdict) ≠ .ok true := by simp
      simp only [next, ih, reads_any_of_ne hne, List.take_succ_cons, stateAfter_cons,
        List.mem_cons, hne.symm, false_or, findSome?_reason?_error]
      cases undecided <;> rfl
    | ok b =>
      cases b with
      | true => simp [next, reads_any_true, stateAfter]
      | false =>
        have hne : (.ok false : Verdict) ≠ .ok true := by simp
        simp only [next, ih, reads_any_of_ne hne, List.take_succ_cons, stateAfter_cons,
          List.mem_cons, hne.symm, false_or, findSome?_reason?_ok]

/-- After an undecided branch, all-of reads everything and stays undecided. -/
lemma all_run_some (e : Undecided) (l : List α) (s : σ) :
    all.run visit (some e) l s = (.error e, stateAfter s (visitAll visit l s)) := by
  induction l generalizing s with
  | nil => rfl
  | cons a rest ih =>
    simp only [run, visitAll, stateAfter_cons]
    cases (visit a s).1 with
    | error e' => exact ih _
    | ok b => cases b <;> exact ih _

lemma all_run_none (l : List α) (s : σ) :
    let visits := visitAll visit l s
    let verdicts := visits.map Visit.answer
    all.run visit none l s =
      (all.outcome verdicts, stateAfter s (visits.take (all.reads verdicts))) := by
  induction l generalizing s with
  | nil => rfl
  | cons a rest ih =>
    simp only [run, visitAll, List.map_cons]
    -- an undecided branch has everything behind it read, and a false one nothing
    cases hv : (visit a s).1 with
    | error e =>
      have hnext : all.next none (.error e) = .goesOn (some e) := rfl
      simp only [hnext, all_run_some, reads_all_error, List.take_succ_cons, stateAfter_cons,
        List.length_map, List.take_length]
      rfl
    | ok b =>
      cases b with
      | true =>
        simp only [next, ih, reads_all_true, List.take_succ_cons, stateAfter_cons]
        rfl
      | false =>
        simp only [next, reads_all_false]
        rfl

/-- A junction comes to what its description says, and leaves the state of the last branch that it
reads. -/
lemma run_eq (j : Junction) (visit : α → σ → Verdict × σ) (l : List α) (s : σ) :
    let visits := visitAll visit l s
    let verdicts := visits.map Visit.answer
    j.run visit none l s =
      (j.outcome verdicts, stateAfter s (visits.take (j.reads verdicts))) := by
  cases j with
  | any => exact any_run_eq none l s
  | all => exact all_run_none l s

end Run

section Count

variable (verdicts : List Verdict)

lemma answers_of_counting (read : Nat) :
    (visitAll (fun v read => (v, read + 1)) verdicts read).map Visit.answer = verdicts := by
  induction verdicts generalizing read with
  | nil => rfl
  | cons v rest ih => simp [visitAll, ih]

lemma stateAfter_of_counting (read n : Nat) :
    stateAfter read ((visitAll (fun (v : Verdict) read => (v, read + 1)) verdicts read).take n) =
      read + min n verdicts.length := by
  induction verdicts generalizing read n with
  | nil => simp [visitAll, stateAfter]
  | cons v rest ih =>
    cases n with
    | zero => simp [stateAfter]
    | succ n =>
      simp only [visitAll, List.take_succ_cons, stateAfter_cons, ih, List.length_cons]
      omega

lemma fold_eq (j : Junction) : j.fold verdicts = (j.outcome verdicts, j.reads verdicts) := by
  rw [fold, run_eq, answers_of_counting, stateAfter_of_counting, Nat.zero_add,
    Nat.min_eq_left (j.reads_le_length verdicts)]

end Count

/-! ### Grouping and order -/

/-- A junction of a list in two parts is the junction of what the parts come to. -/
lemma outcome_append (j : Junction) (before later : List Verdict) :
    j.outcome (before ++ later) = j.outcome [j.outcome before, j.outcome later] := by
  cases j with
  | all =>
    simp only [outcome, List.find?_append]
    cases hb : before.find? (· ≠ .ok true) with
    | some v =>
      have hne : v ≠ .ok true := by simpa using List.find?_some hb
      simp [hne]
    | none =>
      cases hl : later.find? (· ≠ .ok true) with
      | some v =>
        have hne : v ≠ .ok true := by simpa using List.find?_some hl
        simp [hne]
      | none => rfl
  | any =>
    simp only [outcome, List.mem_append, List.findSome?_append]
    by_cases hb : .ok true ∈ before
    · simp [hb]
    · by_cases hl : .ok true ∈ later
      · simp [hb, hl]
      · simp only [hb, hl]
        cases before.findSome? reason? <;> cases later.findSome? reason? <;> rfl

/-- What any-of decides depends on which verdicts there are, not on their order. -/
lemma toOption_outcome_any (verdicts : List Verdict) :
    (any.outcome verdicts).toOption =
      if .ok true ∈ verdicts then some true
      else if verdicts.findSome? reason? = none then some false else none := by
  simp only [outcome]
  split
  · rfl
  · cases verdicts.findSome? reason? <;> rfl

lemma toOption_outcome_any_perm {verdicts verdicts' : List Verdict}
    (h : verdicts.Perm verdicts') :
    (any.outcome verdicts).toOption = (any.outcome verdicts').toOption := by
  simp only [toOption_outcome_any, List.findSome?_eq_none_iff, h.mem_iff]

/-- A junction comes to what its description says and reads as many branches, on every list of
verdicts; and on branches that change a state it leaves the state of the last branch that it reads.
Folding a list in two parts first comes to the same, and any-of decides the same in every order. -/
theorem fold_eq_outcome (j : Junction) :
    (∀ verdicts, j.fold verdicts = (j.outcome verdicts, j.reads verdicts)) ∧
    (∀ {σ α : Type} (visit : α → σ → Verdict × σ) (branches : List α) (s : σ),
      let visits := visitAll visit branches s
      let folded := j.fold (visits.map Visit.answer)
      j.run visit none branches s = (folded.1, stateAfter s (visits.take folded.2))) ∧
    (∀ before later, (j.fold (before ++ later)).1 =
      (j.fold [(j.fold before).1, (j.fold later).1]).1) ∧
    ∀ verdicts verdicts', verdicts.Perm verdicts' →
      (any.fold verdicts).1.toOption = (any.fold verdicts').1.toOption := by
  refine ⟨fun verdicts => fold_eq verdicts j, fun visit branches s => ?_, fun before later => ?_,
    fun verdicts verdicts' h => ?_⟩
  · simp only [fold_eq]
    exact j.run_eq visit branches s
  · simp only [fold_eq]
    exact j.outcome_append before later
  · simp only [fold_eq]
    exact toOption_outcome_any_perm h

end Junction

/-- An undecided branch is passed over by any-of in either order. All-of stops at a false branch
before it, and reads on after it. -/
theorem fold_eq_outcome_plan :
    let plan : Verdict := .error (.missingProperty "plan")
    [plan, .ok true].Perm [.ok true, plan] ∧
      (Junction.any.fold [plan, .ok true]).1.toOption =
        (Junction.any.fold [.ok true, plan]).1.toOption ∧
      Junction.all.fold [.ok true, .ok false, plan] = (.ok false, 2) ∧
      Junction.all.fold [plan, .ok false, .ok true] = (plan, 3) := by
  intro plan
  obtain ⟨-, -, -, hany⟩ := Junction.fold_eq_outcome .any
  obtain ⟨hall, -⟩ := Junction.fold_eq_outcome .all
  have hperm : [plan, .ok true].Perm [.ok true, plan] := .swap _ _ _
  exact ⟨hperm, hany _ _ hperm, (hall _).trans (by decide), (hall _).trans (by decide)⟩

end FeatureFlags
