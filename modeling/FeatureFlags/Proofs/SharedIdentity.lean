import FeatureFlags.Definitions
import FeatureFlags.Proofs.MemoExtension
import FeatureFlags.Proofs.Transparency

/-!
# Whom a value is for

The flags that a flag depends on are evaluated for the identity that the flag itself is evaluated
for. On its own each of them picks an identity: the person, or the group of its type, if there is
one. So what is settled about a flag on the way is its value for the identity at hand. It is the
value that the flag has on its own if the flag picks that identity too, and also if it is disabled,
since then it picks none.
-/

namespace FeatureFlags

open Calendar (Instant)

namespace Rules

variable {rules : Rules} {who : Identity} {f : Flag} {key : String} {value : FlagValue}

lemma evaluate_of_disabled (h : f.isActive = false ∨ f.isDeleted = true) (memo : Memo) :
    rules.evaluate who f memo = (.ok (.off .disabled none), memo) := by
  rcases h with h | h
  · simp [evaluate, Flag.evaluate, h]
  · simp [evaluate, Flag.evaluate, h]

/-- The value that a flag has afresh is that of an evaluation that starts with nothing known. -/
lemma evaluate_of_valueAfresh (hcohorts : rules.CohortsAcyclic) (hflags : rules.FlagsAcyclic)
    (hkeys : rules.ListOwnKeys) (hvalue : rules.valueAfresh who key = .ok value) :
    ∃ g m, rules.flags.get? key = some g ∧ (rules.evaluate who g ∅).1 = .ok m ∧
      m.value = value := by
  cases hg : rules.flags.get? key with
  | none => cases (valueAfresh_missing hg).symm.trans hvalue
  | some g =>
    cases ha : g.isActive with
    | false =>
      obtain rfl := Except.ok.inj ((valueAfresh_inactive hg ha).symm.trans hvalue)
      exact ⟨g, _, rfl, by rw [evaluate_of_disabled (.inl ha)], rfl⟩
    | true =>
      have hrun : (rules.evaluate who g ∅).1.toOption = (rules.evaluateAfresh who g).toOption :=
        (evaluate_learns hcohorts hflags hkeys (hkeys.flag key g hg) Memo.coherentAt_empty).1
      rw [valueAfresh_active hg ha] at hvalue
      cases hm : rules.evaluateAfresh who g with
      | error e =>
        rw [hm] at hvalue
        cases hvalue
      | ok m =>
        rw [hm] at hvalue
        exact ⟨g, m, rfl, ok_of_toOption_eq hrun.symm hm, Except.ok.inj hvalue⟩

end Rules

namespace Definitions

variable {d : Definitions} {now : Instant} {f : Flag} {distinctId : String} {context : Context}
  {key : String} {value : FlagValue} {who : Identity}

/-- A flag is evaluated for the identity that it picks. A disabled flag is off for everybody. -/
lemma evaluateWithMemo_eq (h : f.isActive = false ∨ f.isDeleted = true ∨
      d.identityFor now f distinctId context = .ok (some who)) :
    d.evaluateWithMemo now f distinctId context = d.rules.evaluate who f ∅ := by
  by_cases hoff : f.isActive = false ∨ f.isDeleted = true
  · rw [Rules.evaluate_of_disabled hoff]
    rcases hoff with hoff | hoff
    · simp [evaluateWithMemo, hoff]
    · simp [evaluateWithMemo, hoff]
  · have hwho := (or_assoc.2 h).resolve_left hoff
    simp only [not_or, Bool.not_eq_false, Bool.not_eq_true] at hoff
    simp [evaluateWithMemo, hoff, hwho]

/-- While a flag is evaluated, a value is noted about another. -/
def Settles (d : Definitions) (now : Instant) (f : Flag) (distinctId : String) (context : Context)
    (key : String) (value : FlagValue) : Prop :=
  ∃ who, d.identityFor now f distinctId context = .ok (some who) ∧
    .noted key (.settled value) ∈ (d.rules.record who f ⟨∅, []⟩).2.events

/-- The values that are noted are those in the memo that is left behind. -/
lemma settles_iff : d.Settles now f distinctId context key value ↔
    (d.evaluateWithMemo now f distinctId context).2.get? key = some (.settled value) := by
  have hnoted : ∀ who, (d.rules.evaluate who f ∅).2.get? key = some (.settled value) ↔
      .noted key (.settled value) ∈ (d.rules.record who f ⟨∅, []⟩).2.events := fun who => by
    rw [(d.rules.evaluate_keeps who f ∅).2, Dict.get?_empty, or_iff_right nofun]
  constructor
  · rintro ⟨who, hwho, h⟩
    rw [evaluateWithMemo_eq (.inr (.inr hwho))]
    exact (hnoted who).2 h
  · intro h
    rcases hwho : d.identityFor now f distinctId context with e | who | who
    · simp [evaluateWithMemo, hwho, apply_ite Prod.snd] at h
    · simp [evaluateWithMemo, hwho, apply_ite Prod.snd] at h
    · rw [evaluateWithMemo_eq (.inr (.inr hwho))] at h
      exact ⟨who, hwho, (hnoted who).1 h⟩

/-- A value that is settled on the way stays in the memo. It is the value of the flag for the
identity at hand, and the value that the flag has on its own if the flag picks that identity or is
disabled. -/
theorem settled_for_identity (hcohorts : d.rules.CohortsAcyclic) (hflags : d.rules.FlagsAcyclic)
    (hkeys : d.rules.ListOwnKeys) (hf : ∀ c ∈ f.conditions, c.ListsOwnKey)
    (hsettles : d.Settles now f distinctId context key value) :
    (d.evaluateWithMemo now f distinctId context).2.get? key = some (.settled value) ∧
    ∃ who g m, d.identityFor now f distinctId context = .ok (some who) ∧
      d.flags.get? key = some g ∧ (d.rules.evaluate who g ∅).1 = .ok m ∧ m.value = value ∧
      (g.isActive = false ∨ g.isDeleted = true ∨
          d.identityFor now g distinctId context = .ok (some who) →
        d.evaluate now g distinctId context = .ok m) := by
  have hmemo := settles_iff.1 hsettles
  obtain ⟨who, hwho, hnoted⟩ := hsettles
  have hsettled := ((d.rules.evaluate_keeps who f ∅).2 key value).2 (.inr hnoted)
  -- the memo that is left is right about every flag
  have hlearns : Memo.Learns d.rules who ∅ (d.rules.evaluate who f ∅).2 :=
    (Rules.evaluate_learns hcohorts hflags hkeys hf Memo.coherentAt_empty).2
  have hcoherent := Memo.coherent_iff.2 fun k => hlearns.coherentAt (Memo.coherentAt_empty k)
  obtain ⟨g, m, hg, hm, hvalue⟩ := Rules.evaluate_of_valueAfresh hcohorts hflags hkeys
    (hcoherent.value_eq key value hsettled)
  refine ⟨hmemo, who, g, m, hwho, hg, hm, hvalue, fun hpicks => ?_⟩
  rw [evaluate, evaluateWithMemo_eq hpicks]
  exact hm

end Definitions

/-! ### A flag that depends on the person and on a group -/

/-- A flag for all groups of a type. -/
def everyCompany : Flag :=
  { Flag.ofGroups "company" [] with targeting := ⟨[.ofConditions []], none, some 0, none⟩ }

/-- A flag that depends on a flag for persons and on a flag for groups. -/
def bothOn : Flag :=
  .ofGroups "both" [.ofConditions [.onValue "person" ["person", "company"] (.bool true)]]

/-- The flag with those that it depends on. -/
def mixedFlags : Definitions where
  flags := .ofList [
    ("both", bothOn), ("company", everyCompany),
    ("person", .ofGroups "person" [.ofConditions []])]
  cohorts := ∅
  groupTypes := .ofList [("0", "company")]

lemma mixedFlags_cases {key : String} {f : Flag} (h : mixedFlags.flags.get? key = some f) :
    key = "both" ∧ f = bothOn ∨ key ≠ "both" ∧ f.conditions = [] := by
  have hmem := Dict.mem_entries_of_get? h
  simp only [show mixedFlags.flags.entries = [("both", bothOn), ("company", everyCompany),
    ("person", .ofGroups "person" [.ofConditions []])] from rfl, List.mem_cons, Prod.mk.injEq,
    List.not_mem_nil, or_false] at hmem
  rcases hmem with h | ⟨rfl, rfl⟩ | ⟨rfl, rfl⟩
  · exact .inl h
  · exact .inr ⟨by decide, rfl⟩
  · exact .inr ⟨by decide, rfl⟩

lemma mixedFlags_cohortsAcyclic : mixedFlags.rules.CohortsAcyclic := Rules.cohortsAcyclic_empty _

lemma mixedFlags_flagsAcyclic : mixedFlags.rules.FlagsAcyclic := by
  refine not_transGen_self_of_rank (fun key => if key = "both" then 1 else 0) fun key k hk => ?_
  obtain ⟨f, hf, c, hc, hnames⟩ := hk
  rcases mixedFlags_cases hf with ⟨rfl, rfl⟩ | ⟨-, hnone⟩
  · obtain rfl := List.mem_singleton.1 hc
    rw [Rules.names_onValue, List.mem_pair] at hnames
    rcases hnames with rfl | rfl
    · decide
    · decide
  · rw [hnone] at hc
    cases hc

lemma bothOn_listsOwnKey : ∀ c ∈ bothOn.conditions, c.ListsOwnKey := by
  intro c hc _ _ chain hchain _
  obtain rfl := List.mem_singleton.1 hc
  cases hchain
  exact List.mem_cons_self

lemma mixedFlags_listOwnKeys : mixedFlags.rules.ListOwnKeys where
  flag key f hf := by
    rcases mixedFlags_cases hf with ⟨-, rfl⟩ | ⟨-, hnone⟩
    · exact bothOn_listsOwnKey
    · rw [hnone]
      exact List.forall_mem_nil _
  cohort _ _ htree := nomatch htree

/-- The flag for persons has the value on its own that it has on the way to the flag for both. -/
theorem settled_for_identity_person :
    let who : Identity := ⟨"someone", ∅, ⟨0, 0⟩⟩
    let person : Flag := .ofGroups "person" [.ofConditions []]
    mixedFlags.rules.CohortsAcyclic ∧ mixedFlags.rules.FlagsAcyclic ∧
      mixedFlags.rules.ListOwnKeys ∧ (∀ c ∈ bothOn.conditions, c.ListsOwnKey) ∧
      mixedFlags.Settles ⟨0, 0⟩ bothOn "someone" .nothing "person" (.boolean true) ∧
      mixedFlags.flags.get? "person" = some person ∧
      mixedFlags.identityFor ⟨0, 0⟩ person "someone" .nothing = .ok (some who) ∧
      ∃ m, mixedFlags.evaluate ⟨0, 0⟩ person "someone" .nothing = .ok m ∧
        m.value = .boolean true := by
  intro who person
  have hsettles : mixedFlags.Settles ⟨0, 0⟩ bothOn "someone" .nothing "person" (.boolean true) :=
    ⟨who, rfl, by decide⟩
  obtain ⟨-, _, g, m, hwho, hg, -, hvalue, hown⟩ := Definitions.settled_for_identity
    mixedFlags_cohortsAcyclic mixedFlags_flagsAcyclic mixedFlags_listOwnKeys bothOn_listsOwnKey
    hsettles
  have hperson : mixedFlags.flags.get? "person" = some person := by decide
  obtain rfl := Option.some.inj (hperson.symm.trans hg)
  exact ⟨mixedFlags_cohortsAcyclic, mixedFlags_flagsAcyclic, mixedFlags_listOwnKeys,
    bothOn_listsOwnKey, hsettles, hperson, rfl, m, hown (.inr (.inr hwho)), hvalue⟩

/-- The flag for groups is on for the person on the way to the flag for both. On its own it is off,
since no group is given. -/
theorem settled_for_person_not_for_group :
    ¬∀ (d : Definitions) (now : Instant) (f g : Flag) (distinctId : String) (context : Context)
      (key : String) (value : FlagValue),
      d.rules.CohortsAcyclic → d.rules.FlagsAcyclic → d.rules.ListOwnKeys →
      (∀ c ∈ f.conditions, c.ListsOwnKey) → d.flags.get? key = some g →
      d.Settles now f distinctId context key value →
      ∃ m, d.evaluate now g distinctId context = .ok m ∧ m.value = value := by
  intro h
  obtain ⟨m, hm, hvalue⟩ := h mixedFlags ⟨0, 0⟩ bothOn everyCompany "someone" .nothing "company"
    (.boolean true) mixedFlags_cohortsAcyclic mixedFlags_flagsAcyclic mixedFlags_listOwnKeys
    bothOn_listsOwnKey (by decide) ⟨⟨"someone", ∅, ⟨0, 0⟩⟩, rfl, by decide⟩
  have hoff : mixedFlags.evaluate ⟨0, 0⟩ everyCompany "someone" .nothing =
      .ok (.off .noGroupType none) := by decide
  obtain rfl := Except.ok.inj (hoff.symm.trans hm)
  cases hvalue

end FeatureFlags
