import FeatureFlags.Condition.Matching
import FeatureFlags.Evaluation.Dependency
import FeatureFlags.Evaluation.Tree

/-!
# Evaluating flags

`Rules` are the flags and cohorts that conditions may refer to. A condition on a cohort or a flag
leads to further conditions, so leaves are judged with a bound on the references that may still be
followed. The bound that is used allows for every flag once and, between any two flags, for every
cohort once. Only cohorts that refer to themselves go beyond it. Such an evaluation would follow
references for ever: what comes out of a leaf at the bound stands for no answer, and an evaluation
that gets there does not count as one that ends (`Rules.Ends`).
-/

namespace FeatureFlags

open Calendar (Instant)

/-- The flags and cohorts that conditions may refer to. -/
structure Rules where
  flags : Dict Flag
  cohorts : Dict Cohort

/-- Whom a flag is evaluated for: the key that draws go by, the properties that conditions look at,
and the present. -/
structure Identity where
  key : String
  properties : Dict Json
  now : Instant

namespace Rules

variable {σ : Type}

/-- Judge a condition on a cohort by its leaves. -/
def judgeCohort (leaf : LeafJudge σ) (rules : Rules) (c : Condition) (s : σ) : Verdict × σ :=
  match rules.cohorts.get? c.cohortId with
  | none => (.error (.missingCohort c.cohortId), s)
  | some cohort =>
    match cohort.judge leaf s with
    | (.ok isMember, s) => (.ok (isMember != (c.operator = .notInCohort)), s)
    | (.error e, s) => (.error e, s)

/-- Turn a verdict around if the condition is negated. -/
def turn (c : Condition) : Verdict → Verdict
  | .ok b => .ok (b != c.isNegated)
  | .error e => .error e

/-- Judge a leaf by how the leaves of a cohort are judged, and how a condition on a flag is. -/
def judgeLeafBy (rules : Rules) (who : Identity) (leaf onFlag : LeafJudge σ) : LeafJudge σ :=
  fun c s =>
    match c.subject with
    | .person => (turn c (c.test who.now who.properties), s)
    | .cohort =>
      let (v, s) := rules.judgeCohort leaf c s
      (turn c v, s)
    | .flag =>
      let (v, s) := onFlag c s
      (turn c v, s)

/-- Judge a leaf to which fewer than so many references lead, and refuse all others. A condition on
a flag is judged by how the conditions of flags are. -/
def judgeLeafWithin (rules : Rules) (who : Identity) (refuse : LeafJudge σ)
    (onFlag : LeafJudge σ → LeafJudge σ) : Nat → LeafJudge σ
  | 0 => refuse
  | bound + 1 =>
    let leaf := rules.judgeLeafWithin who refuse onFlag bound
    rules.judgeLeafBy who leaf (onFlag leaf)

/-- How many references can follow one another without a cycle of cohorts. -/
def referenceBound (rules : Rules) : Nat :=
  (rules.flags.size + 1) * (rules.cohorts.size + 1) + 1

/-- Break off at a leaf that lies too deep: the references that lead to it do not end. -/
def refuse : LeafJudge σ := fun c s => (.error (.endlessReference c.key), s)

/-- Judge a condition on a flag by how the conditions of flags are judged. -/
def judgeDependencyBy (rules : Rules) (who : Identity) (leaf : LeafJudge Memo) : LeafJudge Memo :=
  Condition.judgeDependency (askKnown (settle leaf rules.flags who.key) id) Memo.value?

/-- Judge a leaf. -/
def judgeLeaf (rules : Rules) (who : Identity) : LeafJudge Memo :=
  rules.judgeLeafWithin who refuse (rules.judgeDependencyBy who) rules.referenceBound

/-- Judge a condition on a flag, as it stands. -/
def judgeDependency (rules : Rules) (who : Identity) : LeafJudge Memo :=
  rules.judgeDependencyBy who (rules.judgeLeaf who)

/-- Judge a tree of conditions. -/
def judgeTree (rules : Rules) (who : Identity) (tree : Cohort) (memo : Memo) : Verdict × Memo :=
  tree.judge (rules.judgeLeaf who) memo

/-- Judge a group of conditions of a flag. -/
def judgeGroup (rules : Rules) (who : Identity) (f : Flag) (g : ConditionGroup) (memo : Memo) :
    Except Undecided MatchReason × Memo :=
  g.judge (rules.judgeLeaf who) f.key who.key memo

/-- Evaluate a flag. -/
def evaluate (rules : Rules) (who : Identity) (f : Flag) (memo : Memo) :
    Except Undecided FlagMatch × Memo :=
  f.evaluate (rules.judgeLeaf who) who.key memo

end Rules

end FeatureFlags
