import FeatureFlags.Proofs.Inversion
import FeatureFlags.Proofs.Termination

/-!
# Operators that have no name here

A condition may give any operator, and one that is not among the known ones reads as unknown. No
value is compared by it. But the operator is looked at late: a condition can be true or false before
that, and then its negation counts as well.

Main statement: what is decided about a condition with such an operator, in which cases, and that
everything else stays undecided.
-/

namespace FeatureFlags

variable {σ : Type} {c : Condition} {name : String} {a b : Bool}

lemma Operator.ofName_eq_unknown (h : ∀ o ∈ Operator.known, o.name ≠ name) :
    Operator.ofName name = .unknown := by
  rw [Operator.ofName, List.find?_eq_none.2 fun o ho => by simpa using h o ho]
  rfl

namespace Condition

/-! ### Conditions by subject -/

lemma operator_eq_unknown (h : ∀ o ∈ Operator.known, o.name ≠ name)
    (hc : c.givenOperator = some (.ofName name)) : c.operator = .unknown := by
  rw [operator, hc, Operator.ofName_eq_unknown h]
  rfl

/-- A property is not compared by an unknown operator: the condition is false without a comparison,
or undecided. -/
lemma test_unknown (hc : c.operator = .unknown) {now : Calendar.Instant}
    {properties : Dict Json} : c.test now properties = .ok a ↔
      a = false ∧ ∃ value, properties.get? c.key = some value ∧
        (value = .null ∨ c.literal = none) := by
  cases hvalue : properties.get? c.key with
  | none => simp [test, hvalue]
  | some value =>
    have hnull : value.isNull = true ↔ value = .null := by cases value <;> simp [Json.isNull]
    by_cases hv : value = .null
    · simp [test, hvalue, hc, hv, Json.isNull, eq_comm]
    · cases hl : c.literal with
      | none => simp [test, hvalue, hc, hnull, hv, hl, eq_comm]
      | some l => simp [test, hvalue, hc, hnull, hv, hl, Operator.test]

lemma checkDependency_unknown (hc : c.operator = .unknown) {actual : Option FlagValue} :
    c.checkDependency actual = .ok a ↔ a = true ∧ c.literal = none := by
  cases hl : c.literal with
  | none => simp [checkDependency, hl, eq_comm]
  | some l =>
    cases actual with
    | none => simp [checkDependency, hl]
    | some value => simp [checkDependency, hl, hc]

/-- The value of a flag is not compared by an unknown operator, but the chain is followed first. -/
lemma judgeDependency_unknown (hc : c.operator = .unknown)
    {ask : String → σ → Except Undecided FlagValue × σ} {value? : σ → String → Option FlagValue}
    {s : σ} : (c.judgeDependency ask value? s).1 = .ok a ↔
      ∃ chain, c.dependencyChain = some chain ∧ chain ≠ [] ∧
        (askChain ask chain s).1 = .ok a ∧ (a = true → c.literal = none) := by
  rcases hchain : c.dependencyChain with _ | _ | ⟨key, rest⟩
  · simp [judgeDependency, hchain]
  · simp [judgeDependency, hchain]
  · simp only [judgeDependency, hchain, Option.some.injEq, exists_eq_left', ne_eq, reduceCtorEq,
      not_false_eq_true, true_and]
    generalize askChain ask (key :: rest) s = x
    obtain ⟨_ | on, s⟩ := x
    · simp
    · cases on with
      | true => simp +contextual [checkDependency_unknown hc, eq_comm]
      | false => simp +contextual [eq_comm]

end Condition

namespace Rules

variable {rules : Rules} {who : Identity} {leaf : LeafJudge Memo} {memo : Memo}

lemma turn_eq_ok {v : Verdict} : turn c v = .ok b ↔ ∃ a, v = .ok a ∧ b = (a != c.isNegated) := by
  cases v with
  | error e => simp [turn]
  | ok a => simp [turn, eq_comm]

/-- Unless the operator asks for those outside of a cohort, it plays no part. -/
lemma judgeCohort_eq_ok {leaf : LeafJudge σ} (hc : c.operator ≠ .notInCohort) {s : σ} :
    (rules.judgeCohort leaf c s).1 = .ok a ↔
      ∃ tree, rules.cohorts.get? c.cohortId = some tree ∧ (tree.judge leaf s).1 = .ok a := by
  cases htree : rules.cohorts.get? c.cohortId with
  | none => simp [judgeCohort, htree]
  | some tree =>
    simp only [judgeCohort, htree, Option.some.injEq, exists_eq_left']
    generalize tree.judge leaf s = x
    obtain ⟨_ | isMember, s⟩ := x
    · simp
    · simp [hc]

/-- What is decided about a condition, before it is negated, with no regard to its operator. Leaves
of cohorts and of other flags are judged as given. -/
inductive DecidesUnread (rules : Rules) (who : Identity) (leaf : LeafJudge Memo) (c : Condition)
    (memo : Memo) : Bool → Prop
  /-- A property that is null matches nothing. -/
  | nullProperty : c.subject = .person → who.properties.get? c.key = some .null →
    DecidesUnread rules who leaf c memo false
  /-- A property matches no literal if there is none. -/
  | noLiteral {value : Json} : c.subject = .person →
    who.properties.get? c.key = some value → c.literal = none →
    DecidesUnread rules who leaf c memo false
  /-- Members of a cohort match. -/
  | member {tree : Cohort} {isMember : Bool} : c.subject = .cohort →
    rules.cohorts.get? c.cohortId = some tree → (tree.judge leaf memo).1 = .ok isMember →
    DecidesUnread rules who leaf c memo isMember
  /-- A flag of the chain is off. -/
  | chainOff {chain : List String} : c.subject = .flag → c.dependencyChain = some chain →
    chain ≠ [] → (askChain (rules.ask who leaf) chain memo).1 = .ok false →
    DecidesUnread rules who leaf c memo false
  /-- All flags of the chain are on, and no value is expected. -/
  | chainOn {chain : List String} : c.subject = .flag → c.dependencyChain = some chain →
    chain ≠ [] → (askChain (rules.ask who leaf) chain memo).1 = .ok true → c.literal = none →
    DecidesUnread rules who leaf c memo true

/-- A condition with an unknown operator is decided exactly if it is with no regard to the
operator. -/
lemma judgeLeafBy_unknown (hc : c.operator = .unknown) :
    (rules.judgeLeafBy who leaf (rules.judgeDependencyBy who leaf) c memo).1 = .ok b ↔
      ∃ a, rules.DecidesUnread who leaf c memo a ∧ b = (a != c.isNegated) := by
  -- the operator is read last, so each subject is decided only by what comes before it
  cases hs : c.subject with
  | person =>
    simp only [judgeLeafBy, hs, turn_eq_ok, Condition.test_unknown hc]
    refine exists_congr fun a => and_congr_left fun _ => ⟨?_, fun h => ?_⟩
    · rintro ⟨rfl, value, hvalue, rfl | hliteral⟩
      · exact .nullProperty hs hvalue
      · exact .noLiteral hs hvalue hliteral
    · cases h with
      | nullProperty _ hvalue => exact ⟨rfl, .null, hvalue, .inl rfl⟩
      | noLiteral _ hvalue hliteral => exact ⟨rfl, _, hvalue, .inr hliteral⟩
      | member hs' | chainOff hs' | chainOn hs' => cases hs.symm.trans hs'
  | cohort =>
    have hne : c.operator ≠ .notInCohort := by simp [hc]
    simp only [judgeLeafBy, hs, turn_eq_ok, judgeCohort_eq_ok hne]
    refine exists_congr fun a => and_congr_left fun _ => ⟨?_, fun h => ?_⟩
    · rintro ⟨tree, htree, hmember⟩
      exact .member hs htree hmember
    · cases h with
      | member _ htree hmember => exact ⟨_, htree, hmember⟩
      | nullProperty hs' | noLiteral hs' | chainOff hs' | chainOn hs' =>
        cases hs.symm.trans hs'
  | flag =>
    simp only [judgeLeafBy, hs, turn_eq_ok, judgeDependencyBy, Condition.judgeDependency_unknown hc]
    refine exists_congr fun a => and_congr_left fun _ => ⟨?_, fun h => ?_⟩
    · rintro ⟨chain, hchain, hne, hon, hliteral⟩
      cases a with
      | false => exact .chainOff hs hchain hne hon
      | true => exact .chainOn hs hchain hne hon (hliteral rfl)
    · cases h with
      | chainOff _ hchain hne hoff =>
        exact ⟨_, hchain, hne, hoff, fun h => absurd h Bool.false_ne_true⟩
      | chainOn _ hchain hne hon hliteral => exact ⟨_, hchain, hne, hon, fun _ => hliteral⟩
      | nullProperty hs' | noLiteral hs' | member hs' => cases hs.symm.trans hs'

/-- A condition with an operator that has no name here is decided in the cases that
`DecidesUnread` lists, and then negated. In all other cases it is undecided. Leaves below it are
judged with one reference less to follow, which makes no difference unless cohorts refer to
themselves. -/
theorem judgeLeaf_unknown (hname : ∀ o ∈ Operator.known, o.name ≠ name)
    (hc : c.givenOperator = some (.ofName name)) :
    let below := rules.judgeLeafWithin who refuse (rules.judgeDependencyBy who)
      (rules.referenceBound - 1)
    (∀ b, (rules.judgeLeaf who c memo).1 = .ok b ↔
      ∃ a, rules.DecidesUnread who below c memo a ∧ b = (a != c.isNegated)) ∧
    (rules.CohortsAcyclic → ∀ b, (rules.judgeLeaf who c memo).1 = .ok b ↔
      ∃ a, rules.DecidesUnread who (rules.judgeLeaf who) c memo a ∧ b = (a != c.isNegated)) := by
  have hunknown := Condition.operator_eq_unknown hname hc
  refine ⟨fun b => judgeLeafBy_unknown hunknown, fun hcohorts b => ?_⟩
  have hequation : rules.judgeLeaf who c memo = rules.judgeLeafBy who (rules.judgeLeaf who)
      (rules.judgeDependencyBy who (rules.judgeLeaf who)) c memo :=
    congrFun (congrFun (judgeLeaf_eq hcohorts who) c) memo
  rw [hequation]
  exact judgeLeafBy_unknown hunknown

end Rules

/-! ### Conditions that are decided without their operator -/

/-- A condition with an operator that has no name here. -/
def Condition.cleverly (subject : Subject) (literal : Option Literal) : Condition :=
  ⟨"beta", literal, some (.ofName "is_cleverly_named"), subject, none, some ["beta"], none⟩

/-- A cohort that everyone is in. -/
def everyone : Rules := ⟨∅, .ofList [("1", .leaves .any [])]⟩

lemma everyone_cohortsAcyclic : everyone.CohortsAcyclic := by
  refine not_transGen_self_of_rank (fun _ => 0) fun a b hab => ?_
  obtain ⟨tree, htree, c, hc, -⟩ := hab
  have hmem := Dict.mem_entries_of_get? htree
  obtain ⟨-, rfl⟩ := Prod.mk.inj (List.mem_singleton.1 hmem)
  cases hc

/-- A condition on a cohort is decided by who is in the cohort, whatever its operator says. -/
theorem judgeLeaf_unknown_everyone :
    let who : Identity := ⟨"someone", ∅, ⟨0, 0⟩⟩
    let c : Condition := .cleverly .cohort (some (.text "1"))
    (∀ o ∈ Operator.known, o.name ≠ "is_cleverly_named") ∧ everyone.CohortsAcyclic ∧
      (everyone.judgeLeaf who c ∅).1 = .ok true := by
  intro who c
  have hname : ∀ o ∈ Operator.known, o.name ≠ "is_cleverly_named" := by decide
  obtain ⟨-, hdecided⟩ := Rules.judgeLeaf_unknown hname (show c.givenOperator = _ from rfl)
  exact ⟨hname, everyone_cohortsAcyclic,
    (hdecided everyone_cohortsAcyclic true).2 ⟨true, .member rfl rfl rfl, rfl⟩⟩

/-- Conditions on persons, on cohorts and on flags are decided under operators that have no name
here. -/
theorem unknown_operator_decided : ¬∃ subject : Subject,
    ∀ (rules : Rules) (who : Identity) (c : Condition) (name : String) (memo : Memo) (b : Bool),
      c.subject = subject → (∀ o ∈ Operator.known, o.name ≠ name) →
      c.givenOperator = some (.ofName name) → (rules.judgeLeaf who c memo).1 ≠ .ok b := by
  rintro ⟨subject, h⟩
  let who : Identity := ⟨"someone", .ofList [("beta", .null)], ⟨0, 0⟩⟩
  have hname : ∀ o ∈ Operator.known, o.name ≠ "is_cleverly_named" := by decide
  cases subject with
  | person =>
    exact h everyone who (.cleverly .person (some (.text "1"))) _ ∅ false rfl hname rfl (by decide)
  | cohort =>
    exact h everyone who (.cleverly .cohort (some (.text "1"))) _ ∅ true rfl hname rfl (by decide)
  | flag =>
    let memo : Memo := .ofList [("beta", .settled (.boolean true))]
    exact h everyone who (.cleverly .flag none) _ memo true rfl hname rfl (by decide)

end FeatureFlags
