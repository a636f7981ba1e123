import FeatureFlags.Proofs.Inversion
import FeatureFlags.Proofs.Recording
import FeatureFlags.Proofs.References

/-!
# Circular reasoning

No set of flags holds itself up. If every group of every flag of a set has a condition that takes
some flag of the set to be on, then none of them is ever on, however the flags lead to each other,
and whatever else is evaluated in between.

The first of them to be noted as on would have a group that let the identity in. All conditions of
the group were true then, so a flag of the set was on before.
-/

namespace FeatureFlags

/-! ### Sets of flags that hold themselves up -/

/-- A condition takes some flag of a set to be on. -/
def Condition.LeansOn (c : Condition) (S : Set String) : Prop :=
  c.subject = .flag ∧ c.isNegated = false ∧
    ∃ chain, c.dependencyChain = some chain ∧ ∃ key ∈ chain, key ∈ S

/-- Every group of a flag has a condition that takes some flag of a set to be on. -/
def Flag.LeansOn (f : Flag) (S : Set String) : Prop :=
  ∀ g ∈ f.groups, ∃ c ∈ g.conditions.getD [], c.LeansOn S

/-- Every flag of a set leans on the set. -/
def Rules.SelfSupporting (rules : Rules) (S : Set String) : Prop :=
  ∀ key ∈ S, ∀ f, rules.flags.get? key = some f → f.LeansOn S

/-- No flag of a set is known to be on. -/
def Memo.Off (S : Set String) (memo : Memo) : Prop :=
  ∀ key ∈ S, ∀ value, memo.get? key = some (.settled value) → value.isTruthy = false

/-- No flag of a set is known to be on, or was ever noted as being on. -/
structure Record.Off (S : Set String) (r : Record) : Prop where
  known : r.memo.Off S
  noted : ∀ key ∈ S, ∀ value, .noted key (.settled value) ∈ r.events → value.isTruthy = false

/-- A judge of leaves keeps a set of flags off, and does not find any of them to be on. -/
structure LeafJudge.KeepsOff (S : Set String) (leaf : LeafJudge Record) : Prop where
  off : ∀ c r, r.Off S → (leaf c r).2.Off S
  not_true : ∀ c r, r.Off S → c.LeansOn S → (leaf c r).1 ≠ .ok true

lemma FlagMatch.isTruthy_value {m : FlagMatch} (h : m.isMatch = false) :
    m.value.isTruthy = false := by
  simp only [value, h]
  rfl

section Off

variable {rules : Rules} {S : Set String} {r : Record} {key : String} {s : Settlement}

lemma Record.Off.note (h : r.Off S)
    (hs : key ∈ S → ∀ value, s = .settled value → value.isTruthy = false) :
    (r.note key s).Off S := by
  constructor
  · intro k hk value hvalue
    rw [memo_note, Dict.get?_insert] at hvalue
    split at hvalue
    · rename_i heq
      exact hs (heq ▸ hk) value (Option.some.inj hvalue)
    · exact h.known k hk value hvalue
  · intro k hk value hvalue
    rcases List.mem_cons.1 hvalue with heq | hvalue
    · cases heq
      exact hs hk value rfl
    · exact h.noted k hk value hvalue

lemma Record.Off.log {e : Event} (h : r.Off S) (he : ∀ key s, e ≠ .noted key s) :
    (r.log e).Off S := by
  refine ⟨h.known, fun k hk value hvalue => ?_⟩
  rcases List.mem_cons.1 hvalue with heq | hvalue
  · exact absurd heq.symm (he _ _)
  · exact h.noted k hk value hvalue

/-- A flag that leans on a set that is off is off. -/
lemma LeafJudge.KeepsOff.isMatch_eq {leaf : LeafJudge Record} (hleaf : leaf.KeepsOff S) {f : Flag}
    (hf : f.LeansOn S) (identity : String) (hr : r.Off S) {m : FlagMatch}
    (h : (f.evaluate leaf identity r).1 = .ok m) : m.isMatch = false := by
  by_contra hm
  obtain ⟨g, hg, hall⟩ := Flag.evaluate_isMatch (I := Record.Off S) (fun c _ => hleaf.off c) hr h
    (by simpa using hm)
  obtain ⟨c, hc, hlean⟩ := hf g hg
  obtain ⟨t, ht, htrue⟩ := hall c hc
  exact hleaf.not_true c t ht hlean htrue

/-- Settling a flag keeps a set off that holds itself up. -/
lemma LeafJudge.KeepsOff.settle_off {leaf : LeafJudge Record} (hleaf : leaf.KeepsOff S)
    (hS : rules.SelfSupporting S) (identity key : String) (hr : r.Off S) :
    (Record.settle leaf rules.flags identity key r).2.Off S := by
  have hlog : (r.log (.settling key)).Off S := hr.log fun _ _ he => by cases he
  simp only [Record.settle]
  cases hf : rules.flags.get? key with
  | none => exact hlog.note fun _ _ he => by cases he
  | some f =>
    simp only
    split
    · refine hlog.note fun _ value hvalue => ?_
      cases hvalue
      rfl
    · have hnoted : ((r.log (.settling key)).note key .inconclusive).Off S :=
        hlog.note fun _ _ he => by cases he
      have hstart := hnoted.log (e := .entered key) fun _ _ he => by cases he
      have hrun : Record.Off S (f.evaluate leaf identity _).2 :=
        Lockstep.keeps (f.evaluate_lockstep (fun _ => rfl) identity
          (fun c _ => lockstep_twin_of_keeps (hleaf.off c)) ⟨rfl, hstart⟩)
      -- a flag of the set is evaluated while the set is off, so it is noted as being off
      have hoff := fun hkey m => hleaf.isMatch_eq (hS key hkey f hf) identity hstart (m := m)
      generalize f.evaluate leaf identity _ = x at hrun hoff ⊢
      obtain ⟨e | m, t⟩ := x
      · exact hrun
      · refine hrun.note fun hkey value hvalue => ?_
        cases hvalue
        exact FlagMatch.isTruthy_value (hoff hkey m rfl)

lemma LeafJudge.KeepsOff.ask_off {leaf : LeafJudge Record} (hleaf : leaf.KeepsOff S)
    (hS : rules.SelfSupporting S) (identity key : String) (hr : r.Off S) :
    (askKnown (Record.settle leaf rules.flags identity) Record.memo key r).2.Off S := by
  refine Lockstep.keeps (askKnown_lockstep (fun _ => rfl) (fun r r' hr => by rw [hr.1])
    (fun _ => ?_) ⟨rfl, hr⟩)
  exact lockstep_twin_of_keeps (fun r hr => hleaf.settle_off hS identity key hr) r r ⟨rfl, hr⟩

/-- A condition that leans on a set that is off is not true. -/
lemma LeafJudge.KeepsOff.recordDependencyBy {leaf : LeafJudge Record} (hleaf : leaf.KeepsOff S)
    (hS : rules.SelfSupporting S) (who : Identity) :
    LeafJudge.KeepsOff S (rules.recordDependencyBy who leaf) where
  off c r hr := by
    refine Lockstep.keeps (Condition.judgeDependency_lockstep (fun _ => rfl)
      (fun _ _ key _ => ?_) (fun _ _ _ _ r r' _ hr => by rw [hr.1]) ⟨rfl, hr⟩)
    exact lockstep_twin_of_keeps fun r hr => hleaf.ask_off hS who.key key hr
  not_true c r hr hlean htrue := by
    obtain ⟨-, -, chain, hchain, key, hmem, hkey⟩ := hlean
    obtain ⟨chain', hchain', hrun⟩ := Condition.judgeDependency_true htrue
    obtain rfl := Option.some.inj (hchain.symm.trans hchain')
    have hout := (askChain_true (I := Record.Off S) (J := fun k _ => k ∉ S)
      (fun k _ r hr => hleaf.ask_off hS who.key k hr) (fun k _ r value hr hok hon hk => ?_)
      (fun _ _ _ _ _ hk => hk) hr hrun).2
    · exact hout key hmem hkey
    · -- what is answered is known afterwards, and known to be off
      have hknown := Memo.value?_eq_some_iff.1 (askKnown_ok hok)
      rw [(hleaf.ask_off hS who.key k hr).known k hk value hknown] at hon
      cases hon

end Off

namespace Rules

variable {rules : Rules} {S : Set String}

/-- A set of flags that holds itself up is kept off below any number of references. -/
lemma recordLeafWithin_keepsOff (hS : rules.SelfSupporting S) (who : Identity) (bound : Nat) :
    LeafJudge.KeepsOff S (rules.recordLeafWithin who bound) := by
  induction bound with
  | zero =>
    constructor
    · exact fun c r hr => hr.log fun _ _ => nofun
    · exact fun c r _ _ => nofun
  | succ bound ih =>
    have hflag := ih.recordDependencyBy hS who
    rw [recordLeafWithin_succ]
    constructor
    · intro c r hr
      refine Lockstep.keeps (rules.judgeLeafBy_lockstep (fun _ => rfl) who c
        (fun _ _ _ d _ => ?_) (fun _ => ?_) ⟨rfl, hr⟩)
      · exact lockstep_twin_of_keeps (ih.off d)
      · exact lockstep_twin_of_keeps (hflag.off c) r r ⟨rfl, hr⟩
    · intro c r hr hlean htrue
      obtain ⟨hc, hpositive, -⟩ := id hlean
      refine hflag.not_true c r hr hlean ?_
      simp only [judgeLeafBy, hc] at htrue
      generalize rules.recordDependencyBy who (rules.recordLeafWithin who bound) c r = x at htrue ⊢
      obtain ⟨e | b, t⟩ := x
      · cases htrue
      · simpa [turn, hpositive] using htrue

/-- No flag is switched on by circular reasoning. If a set of flags holds itself up and none of them
is known to be on, then evaluating any flag neither notes one of them as being on nor leaves it
known to be, and a flag of the set does not match. -/
theorem selfSupporting_stays_off (hS : rules.SelfSupporting S) (who : Identity) (f : Flag)
    {memo : Memo} (hmemo : memo.Off S) :
    let run := rules.record who f ⟨memo, []⟩
    (run.1, run.2.memo) = rules.evaluate who f memo ∧
    (∀ key ∈ S, ∀ value, .noted key (.settled value) ∈ run.2.events → value.isTruthy = false) ∧
    (rules.evaluate who f memo).2.Off S ∧
    ∀ key ∈ S, rules.flags.get? key = some f →
      ∀ m, (rules.evaluate who f memo).1 = .ok m → m.isMatch = false := by
  intro run
  have hleaf := recordLeafWithin_keepsOff hS who rules.referenceBound
  have hstart : Record.Off S ⟨memo, []⟩ := ⟨hmemo, fun _ _ _ h => absurd h List.not_mem_nil⟩
  have hrun : Record.Off S run.2 := Lockstep.keeps (f.evaluate_lockstep (fun _ => rfl) who.key
    (fun c _ => lockstep_twin_of_keeps (hleaf.off c)) ⟨rfl, hstart⟩)
  obtain ⟨houtcome, hresult⟩ := rules.record_eq_evaluate who f ⟨memo, []⟩
  refine ⟨Prod.ext houtcome hresult, hrun.noted, hresult ▸ hrun.known, fun key hkey hf m hm => ?_⟩
  exact hleaf.isMatch_eq (hS key hkey f hf) who.key hstart (houtcome.trans hm)

end Rules

/-- Two flags that take each other to be on; one of them also takes a third to be on, which is off
for everyone. -/
def standoff : Rules where
  flags := .ofList [
    ("closed", .ofGroups "closed" []),
    ("ping", .ofGroups "ping" [
      .ofConditions [.onFlag "closed" ["closed"], .onFlag "pong" ["pong"]]]),
    ("pong", .ofGroups "pong" [.ofConditions [.onFlag "ping" ["ping"]]])]
  cohorts := ∅

lemma standoff_selfSupporting : standoff.SelfSupporting {"ping", "pong"} := by
  rintro key (rfl | rfl) f hf g hg
  · cases hf
    obtain rfl := List.mem_singleton.1 hg
    exact ⟨.onFlag "pong" ["pong"], List.mem_cons_of_mem _ List.mem_cons_self, rfl, rfl, ["pong"],
      rfl, "pong", List.mem_cons_self, .inr rfl⟩
  · cases hf
    obtain rfl := List.mem_singleton.1 hg
    exact ⟨.onFlag "ping" ["ping"], List.mem_cons_self, rfl, rfl, ["ping"], rfl, "ping",
      List.mem_cons_self, .inl rfl⟩

/-- Neither flag of the standoff is on. What decides is the third flag; if it is taken to be on,
nothing does. -/
theorem standoff_stays_off :
    let who : Identity := ⟨"someone", ∅, ⟨0, 0⟩⟩
    let pong : Flag := .ofGroups "pong" [.ofConditions [.onFlag "ping" ["ping"]]]
    let memo : Memo := .ofList [("closed", .settled (.boolean true))]
    standoff.SelfSupporting {"ping", "pong"} ∧ memo.Off {"ping", "pong"} ∧
      (∀ m, (standoff.evaluate who pong ∅).1 = .ok m → m.isMatch = false) ∧
      (standoff.evaluate who pong ∅).1.toBool = true ∧
      (standoff.evaluate who pong memo).2.Off {"ping", "pong"} ∧
      (standoff.evaluate who pong memo).1.toBool = false := by
  intro who pong memo
  have hmemo : memo.Off {"ping", "pong"} := by
    rintro key (rfl | rfl) value hvalue
    · cases hvalue
    · cases hvalue
  obtain ⟨-, -, -, hoff⟩ := Rules.selfSupporting_stays_off standoff_selfSupporting who pong
    (fun _ _ _ hvalue => nomatch hvalue : Memo.Off {"ping", "pong"} ∅)
  obtain ⟨-, -, hknown, -⟩ := Rules.selfSupporting_stays_off standoff_selfSupporting who pong hmemo
  exact ⟨standoff_selfSupporting, hmemo, hoff "pong" (.inr rfl) rfl, by decide, hknown, by decide⟩

end FeatureFlags
