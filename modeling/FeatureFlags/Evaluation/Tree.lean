import FeatureFlags.Cohort
import FeatureFlags.Evaluation.Memo

/-!
# Judging condition trees

The nodes of a tree are judged in declared order, each as far as its junction needs. A node without
children is true.
-/

namespace FeatureFlags.Cohort

variable {σ : Type}

mutual

/-- Judge a tree by its leaves. -/
def judge (leaf : LeafJudge σ) : Cohort → σ → Verdict × σ
  | .nodes j children, s =>
    if children.isEmpty then (.ok true, s) else judgeChildren leaf j none children s
  | .leaves j conditions, s =>
    if conditions.isEmpty then (.ok true, s) else j.run leaf none conditions s

/-- Judge the children of a node until it is decided. -/
def judgeChildren (leaf : LeafJudge σ) (j : Junction) (undecided : Option Undecided) :
    List Cohort → σ → Verdict × σ
  | [], s => (j.close undecided, s)
  | c :: rest, s =>
    match judge leaf c s with
    | (v, s) =>
      match j.next undecided v with
      | .decided b => (.ok b, s)
      | .goesOn undecided => judgeChildren leaf j undecided rest s

end

/-- Children are joined like the branches of any junction. -/
theorem judgeChildren_eq_run (leaf : LeafJudge σ) (j : Junction) (undecided : Option Undecided)
    (children : List Cohort) (s : σ) :
    judgeChildren leaf j undecided children s = j.run (judge leaf) undecided children s := by
  induction children generalizing undecided s with
  | nil => rw [judgeChildren, Junction.run]
  | cons c rest ih =>
    rw [judgeChildren, Junction.run]
    cases judge leaf c s with
    | mk v s =>
      cases h : j.next undecided v with
      | decided b => simp [h]
      | goesOn undecided => simpa [h] using ih undecided s

end FeatureFlags.Cohort
