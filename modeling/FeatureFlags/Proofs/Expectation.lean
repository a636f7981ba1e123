import FeatureFlags.Proofs.MemoExtension
import FeatureFlags.Proofs.JunctionOutcome
import FeatureFlags.Proofs.MatchValue

/-!
# Expected values

A condition on a flag may give the value that the flag is expected to have. The flags of its chain
are asked for first, and the first that is not on ends the matter: if it is off, then the condition
is false, whatever is expected. The flag itself is on the chain too, so its value is only compared
with the expected one if it is on.

Main statement: where all flags of the chain are settled and the others are on, a condition is true
if the flag is on and has the expected value. This differs from the comparison with the expected
value in one case, that the flag is expected to be off and is off. Hence a condition that expects a
flag to be off is never true.
-/

namespace FeatureFlags

variable {σ : Type}

/-! ### Chains -/

/-- A flag that was asked for is on. -/
def Visit.isOn (t : Visit String (Except Undecided FlagValue) σ) : Bool :=
  t.answer.toOption.any FlagValue.isTruthy

lemma Visit.isOn_iff {t : Visit String (Except Undecided FlagValue) σ} :
    t.isOn = true ↔ ∃ value, t.answer = .ok value ∧ value.isTruthy = true := by
  rw [isOn]
  cases t.answer with
  | error e => simp [Except.toOption]
  | ok value => simp [Except.toOption]

/-- A chain ends at the first flag that is not on. -/
lemma askChain_eq (ask : String → σ → Except Undecided FlagValue × σ) (chain : List String)
    (s : σ) :
    askChain ask chain s =
      match (visitAll ask chain s).find? (!·.isOn) with
      | some t => (t.answer.map fun _ => false, t.after)
      | none => (.ok true, stateAfter s (visitAll ask chain s)) := by
  induction chain generalizing s with
  | nil => rfl
  | cons key rest ih =>
    simp only [askChain, visitAll, List.find?_cons, stateAfter_cons]
    generalize ask key s = x
    obtain ⟨e | value, s'⟩ := x
    · rfl
    · cases hv : value.isTruthy with
      | false => simp [Visit.isOn, hv, Except.toOption, Except.map]
      | true => simpa [Visit.isOn, hv, Except.toOption] using ih s'

lemma Condition.judgeDependency_of_chain {ask : String → σ → Except Undecided FlagValue × σ}
    {value? : σ → String → Option FlagValue} {c : Condition} {chain : List String} {s : σ}
    (hchain : c.dependencyChain = some chain) (hne : chain ≠ []) :
    c.judgeDependency ask value? s =
      match (visitAll ask chain s).find? (!·.isOn) with
      | some t => (t.answer.map fun _ => false, t.after)
      | none =>
        let after := stateAfter s (visitAll ask chain s)
        (c.checkDependency (value? after c.key), after) := by
  cases chain with
  | nil => exact absurd rfl hne
  | cons key rest =>
    simp only [judgeDependency, hchain, askChain_eq]
    cases (visitAll ask (key :: rest) s).find? (!·.isOn) with
    | none => rfl
    | some t => obtain ⟨asked, e | value, after⟩ := t <;> rfl

/-! ### What is known after a chain -/

section Known

variable {ask : String → Memo → Except Undecided FlagValue × Memo} {memo : Memo}

/-- Asking for flags replaces nothing that is known. -/
def KeepsKnown (ask : String → Memo → Except Undecided FlagValue × Memo) : Prop :=
  ∀ asked memo key s, memo.get? key = some s → (ask asked memo).2.get? key = some s

lemma KeepsKnown.stateAfter (hkeep : KeepsKnown ask) {chain : List String} {key : String}
    {s : Settlement} (h : memo.get? key = some s) :
    (stateAfter memo (visitAll ask chain memo)).get? key = some s := by
  induction chain generalizing memo with
  | nil => exact h
  | cons asked rest ih =>
    rw [visitAll, stateAfter_cons]
    exact ih (hkeep asked memo key s h)

/-- The value that a flag was said to have is known after the chain. -/
lemma KeepsKnown.get?_of_mem (hkeep : KeepsKnown ask)
    (hask : ∀ key memo value, (ask key memo).1 = .ok value →
      (ask key memo).2.get? key = some (.settled value))
    {chain : List String} {t : Visit String (Except Undecided FlagValue) Memo} {value : FlagValue}
    (ht : t ∈ visitAll ask chain memo) (h : t.answer = .ok value) :
    (FeatureFlags.stateAfter memo (visitAll ask chain memo)).get? t.item =
      some (.settled value) := by
  induction chain generalizing memo with
  | nil => cases ht
  | cons key rest ih =>
    rw [visitAll, stateAfter_cons]
    rcases List.mem_cons.1 ht with rfl | ht
    · exact hkeep.stateAfter (hask key memo value h)
    · exact ih ht

end Known

/-! ### Expectations -/

namespace Literal

variable {value : FlagValue} {expected : Literal}

lemma expects_off (h : value.isTruthy = true) : (bool false).expects value = false := by
  cases value with
  | variant name => simp [expects]
  | boolean b => simp [expects, show b = true from h]

/-- A flag that is off meets one expectation only: that it is off. -/
lemma isTruthy_and_expects : (value.isTruthy && expected.expects value) = expected.expects value ↔
    ¬(value = .boolean false ∧ expected = .bool false) := by
  cases value with
  | variant name => cases expected <;> simp [expects, FlagValue.isTruthy]
  | boolean b =>
    cases expected with
    | bool b' => cases b <;> cases b' <;> simp [expects, FlagValue.isTruthy]
    | number | text | list => simp [expects]

end Literal

namespace Rules

variable {rules : Rules} {who : Identity} {c : Condition} {expected : Literal}
  {chain : List String} {memo : Memo}

lemma keepsKnown_ask (rules : Rules) (who : Identity) :
    KeepsKnown (rules.ask who (rules.judgeLeaf who)) := by
  intro asked memo key s h
  have hleaf : ∀ floor c r, Record.Grown memo floor r →
      Record.Grown memo floor (rules.recordLeafWithin who rules.referenceBound c r).2 :=
    fun _ _ _ hr => recordLeafWithin_grown who _ hr
  have hgrown := (Record.Grown.init memo).ask hleaf rules.flags who.key asked
  have hmemo := (Record.ask_lockstep
    (fun c _ _ hr => rules.recordLeafWithin_lockstep who rules.referenceBound c hr) rules.flags
    who.key asked (show Record.Holds ⟨memo, []⟩ memo from rfl)).state
  exact (congrArg (Dict.get? · key) hmemo).symm.trans (hgrown.keeps key s h)

lemma get?_ask {key : String} {value : FlagValue}
    (h : (rules.ask who (rules.judgeLeaf who) key memo).1 = .ok value) :
    (rules.ask who (rules.judgeLeaf who) key memo).2.get? key = some (.settled value) :=
  Memo.value?_eq_some_iff.1 (askKnown_ok h)

/-- A condition with an expected value comes to what a flag of its chain is not on for, or it looks
at the value of its flag, which is on. -/
lemma judgeDependency_cases (rules : Rules) (who : Identity)
    (hoperator : c.operator = .flagEvaluatesTo) (hliteral : c.literal = some expected)
    (hchain : c.dependencyChain = some chain) (hkey : c.key ∈ chain) (memo : Memo) :
    let visits := visitAll (rules.ask who (rules.judgeLeaf who)) chain memo
    let verdict := (rules.judgeDependency who c memo).1
    (∃ t ∈ visits, t.isOn = false ∧ verdict = t.answer.map fun _ => false) ∨
      ∃ t ∈ visits, t.item = c.key ∧ ∃ value, t.answer = .ok value ∧ value.isTruthy = true ∧
        verdict = .ok (expected.expects value) := by
  intro visits verdict
  have hverdict : verdict =
      (c.judgeDependency (rules.ask who (rules.judgeLeaf who)) Memo.value? memo).1 := rfl
  rw [Condition.judgeDependency_of_chain hchain (List.ne_nil_of_mem hkey)] at hverdict
  cases hfind : visits.find? (!·.isOn) with
  | some t =>
    have hoff : t.isOn = false := by simpa using List.find?_some hfind
    rw [hfind] at hverdict
    exact .inl ⟨t, List.mem_of_find?_eq_some hfind, hoff, hverdict⟩
  | none =>
    -- the flag itself is among those that are on, and its value is still known after the chain
    have hvisit : ∃ t ∈ visits, t.item = c.key := exists_mem_visitAll hkey
    obtain ⟨t, ht, hitem⟩ := hvisit
    have hon : t.isOn = true := by simpa using List.find?_eq_none.1 hfind t ht
    obtain ⟨value, hvalue, htruthy⟩ := Visit.isOn_iff.1 hon
    have hknown := (rules.keepsKnown_ask who).get?_of_mem (fun _ _ _ h => get?_ask h) ht hvalue
    rw [hitem, ← Memo.value?_eq_some_iff] at hknown
    rw [hfind] at hverdict
    refine .inr ⟨t, ht, hitem, value, hvalue, htruthy, ?_⟩
    simp [hverdict, hknown, Condition.checkDependency, hliteral, hoperator]

/-- A condition gives the value that its flag is expected to have, and the flag is on its chain. If
the others of the chain are on and the flag has a value, then the condition says whether the flag is
on and the value is the expected one. Only where the flag is off, as it is expected to be, would the
comparison alone say something else. So a condition that expects a flag to be off is never true. -/
theorem judgeDependency_of_settled (rules : Rules) (who : Identity)
    (hoperator : c.operator = .flagEvaluatesTo) (hliteral : c.literal = some expected)
    (hchain : c.dependencyChain = some chain) (hkey : c.key ∈ chain) (memo : Memo) :
    let visits := visitAll (rules.ask who (rules.judgeLeaf who)) chain memo
    let verdict := (rules.judgeDependency who c memo).1
    (∀ value, (∀ t ∈ visits, t.item ≠ c.key → t.isOn = true) →
      (∀ t ∈ visits, t.item = c.key → t.answer = .ok value) →
      verdict = .ok (value.isTruthy && expected.expects value) ∧
        (verdict = .ok (expected.expects value) ↔
          ¬(value = .boolean false ∧ expected = .bool false))) ∧
    (expected = .bool false → verdict ≠ .ok true) := by
  intro visits verdict
  have hcases := rules.judgeDependency_cases who hoperator hliteral hchain hkey memo
  constructor
  · intro value hothers hself
    have hverdict : verdict = .ok (value.isTruthy && expected.expects value) := by
      -- a flag of the chain that is not on can only be the flag itself
      rcases hcases with ⟨t, ht, hoff, hverdict⟩ | ⟨t, ht, hitem, v, hv, htruthy, hverdict⟩
      · have hitem : t.item = c.key := by
          by_contra hne
          exact Bool.false_ne_true (hoff.symm.trans (hothers t ht hne))
        have hanswer := hself t ht hitem
        have hfalsy : value.isTruthy = false := by
          simpa [Visit.isOn, hanswer, Except.toOption] using hoff
        rw [hfalsy]
        exact hverdict.trans (by rw [hanswer]; rfl)
      · obtain rfl := Except.ok.inj (hv.symm.trans (hself t ht hitem))
        rw [htruthy]
        exact hverdict
    refine ⟨hverdict, ?_⟩
    rw [hverdict, ← Literal.isTruthy_and_expects]
    exact ⟨Except.ok.inj, congrArg _⟩
  · rintro rfl htrue
    rcases hcases with ⟨t, -, -, hverdict⟩ | ⟨t, -, -, v, -, htruthy, hverdict⟩
    · cases hanswer : t.answer with
      | error e =>
        rw [hanswer] at hverdict
        cases htrue.symm.trans hverdict
      | ok v =>
        rw [hanswer] at hverdict
        cases htrue.symm.trans hverdict
    · rw [Literal.expects_off htruthy] at hverdict
      cases htrue.symm.trans hverdict

end Rules

/-- A flag that everyone sees, one that shows a variant to everyone, and one that nobody sees. -/
def Rules.openAndClosed : Rules where
  flags := .ofList [("open", .ofGroups "open" [.ofConditions []]),
    ("paint", .ofVariant "paint" "blue"), ("closed", .ofGroups "closed" [])]
  cohorts := ∅

/-- A variant is the expected one, with another flag on the chain before it. -/
theorem judgeDependency_of_settled_blue :
    let who : Identity := ⟨"someone", ∅, ⟨0, 0⟩⟩
    let c : Condition := .onValue "paint" ["open", "paint"] (.text "blue")
    let visits := visitAll (Rules.openAndClosed.ask who (Rules.openAndClosed.judgeLeaf who))
      ["open", "paint"] ∅
    (c.operator = .flagEvaluatesTo ∧ c.literal = some (.text "blue") ∧
      c.dependencyChain = some ["open", "paint"] ∧ c.key ∈ ["open", "paint"]) ∧
    (∀ t ∈ visits, t.item ≠ c.key → t.isOn = true) ∧
    (∀ t ∈ visits, t.item = c.key → t.answer = .ok (.variant "blue")) ∧
    (Rules.openAndClosed.judgeDependency who c ∅).1 = .ok true := by
  intro who c visits
  have hothers : ∀ t ∈ visits, t.item ≠ c.key → t.isOn = true := by decide
  have hself : ∀ t ∈ visits, t.item = c.key → t.answer = .ok (.variant "blue") := by decide
  have hkey : c.key ∈ ["open", "paint"] := by decide
  obtain ⟨hverdict, -⟩ := (Rules.openAndClosed.judgeDependency_of_settled who rfl rfl rfl hkey ∅).1
    (.variant "blue") hothers hself
  exact ⟨⟨rfl, rfl, rfl, hkey⟩, hothers, hself, hverdict⟩

/-- A flag is off, as a condition expects it to be, and the condition is false. -/
theorem expected_off_not_met :
    ¬∀ (rules : Rules) (who : Identity) (c : Condition) (expected : Literal)
      (chain : List String) (memo : Memo) (value : FlagValue),
      c.operator = .flagEvaluatesTo → c.literal = some expected →
      c.dependencyChain = some chain → c.key ∈ chain →
      (∀ t ∈ visitAll (rules.ask who (rules.judgeLeaf who)) chain memo, t.item ≠ c.key →
        t.isOn = true) →
      (∀ t ∈ visitAll (rules.ask who (rules.judgeLeaf who)) chain memo, t.item = c.key →
        t.answer = .ok value) →
      (rules.judgeDependency who c memo).1 = .ok (expected.expects value) := by
  intro h
  have htrue := h .openAndClosed ⟨"someone", ∅, ⟨0, 0⟩⟩
    (.onValue "closed" ["open", "closed"] (.bool false)) (.bool false) ["open", "closed"] ∅
    (.boolean false) rfl rfl rfl (by decide) (by decide) (by decide)
  revert htrue
  decide

end FeatureFlags
