import FeatureFlags.Definitions
import FeatureFlags.Proofs.Recording
import FeatureFlags.Proofs.References

/-!
# Evaluations end

Flags may depend on each other in a circle, and cohorts may lead to flags and back. What ends an
evaluation is that a flag is noted before its conditions are judged, so that each is settled at
most once. Below a condition, references can follow one another as often as there are flags left
to be met, and in between along a path of cohorts; only a circle of cohorts alone is ruled out.

Around such a circle an evaluation goes on for ever, and there is no answer. It is told by its
record, in which a leaf is refused: `Rules.Ends` says that none is, and what is stated of answers
for all definitions is stated of evaluations that end.

Main statement: the bound on references is never reached, no flag is settled twice, and the
evaluation of a flag is entered at most once for each flag and once for the call.
-/

namespace FeatureFlags

/-- How many flags nothing is known about. -/
noncomputable def Rules.unknownCount (rules : Rules) (memo : Memo) : Nat :=
  rules.flags.countKeys fun key => memo.contains key = false

/-! ### What holds of a record throughout -/

namespace Dict

variable {α : Type} {d : Dict α} {k key : String} {v : α}

lemma contains_insert_self : (d.insert k v).contains k = true := by
  simp [contains]

lemma contains_insert_of_contains (h : d.contains key = true) :
    (d.insert k v).contains key = true := by
  by_cases hk : k = key
  · rw [← hk, contains_insert_self]
  · simpa [contains, hk] using h

end Dict

/-- What holds of a record throughout an evaluation that began with a memo. -/
structure Record.Orderly (rules : Rules) (start : Memo) (r : Record) : Prop where
  known_of_start : ∀ key, start.contains key = true → r.memo.contains key = true
  known_of_settled : ∀ key ∈ r.settled, r.memo.contains key = true
  unknown_of_settled : ∀ key ∈ r.settled, start.contains key = false
  settled_nodup : r.settled.Nodup
  entered_sublist : r.entered.Sublist r.settled
  defined_of_entered : ∀ key ∈ r.entered, key ∈ rules.flags.keys
  not_refused : ∀ key, .refused key ∉ r.events

namespace Record.Orderly

variable {rules : Rules} {start : Memo} {r : Record} {key : String} {s : Settlement}

lemma init (rules : Rules) (start : Memo) : Orderly rules start ⟨start, []⟩ where
  known_of_start _ h := h
  known_of_settled _ h := absurd h List.not_mem_nil
  unknown_of_settled _ h := absurd h List.not_mem_nil
  settled_nodup := .nil
  entered_sublist := .slnil
  defined_of_entered _ h := absurd h List.not_mem_nil
  not_refused _ h := absurd h List.not_mem_nil

lemma note (h : Orderly rules start r) : Orderly rules start (r.note key s) where
  known_of_start k hk := Dict.contains_insert_of_contains (h.known_of_start k hk)
  known_of_settled k hk := Dict.contains_insert_of_contains (h.known_of_settled k hk)
  unknown_of_settled := h.unknown_of_settled
  settled_nodup := h.settled_nodup
  entered_sublist := h.entered_sublist
  defined_of_entered := h.defined_of_entered
  not_refused k hk := h.not_refused k (by simpa using hk)

/-- A flag that nothing is known about was not settled before, nor known at the start. -/
lemma settling (h : Orderly rules start r) (hkey : r.memo.contains key = false) :
    Orderly rules start ((r.log (.settling key)).note key s) where
  known_of_start k hk := Dict.contains_insert_of_contains (h.known_of_start k hk)
  known_of_settled k hk := by
    rcases List.mem_cons.1 (show k ∈ key :: r.settled from hk) with rfl | hk
    · exact Dict.contains_insert_self
    · exact Dict.contains_insert_of_contains (h.known_of_settled k hk)
  unknown_of_settled k hk := by
    rcases List.mem_cons.1 (show k ∈ key :: r.settled from hk) with rfl | hk
    · by_contra hstart
      simp [h.known_of_start k (by simpa using hstart)] at hkey
    · exact h.unknown_of_settled k hk
  settled_nodup := List.nodup_cons.2
    ⟨fun hk => by simp [h.known_of_settled key hk] at hkey, h.settled_nodup⟩
  entered_sublist := h.entered_sublist.cons key
  defined_of_entered := h.defined_of_entered
  not_refused k hk := h.not_refused k (by simpa using hk)

lemma entering {f : Flag} (h : Orderly rules start r) (hkey : r.memo.contains key = false)
    (hf : rules.flags.get? key = some f) :
    Orderly rules start (((r.log (.settling key)).note key s).log (.entered key)) :=
  have hs : Orderly rules start ((r.log (.settling key)).note key s) := h.settling hkey
  { hs with
    entered_sublist := h.entered_sublist.cons_cons key
    defined_of_entered := fun k hk => by
      rcases List.mem_cons.1 (show k ∈ key :: r.entered from hk) with rfl | hk
      · exact Dict.mem_keys_of_get? hf
      · exact h.defined_of_entered k hk
    not_refused := fun k hk => hs.not_refused k (by simpa using hk) }

lemma length_entered_le (h : Orderly rules start r) : r.entered.length ≤ rules.flags.size := by
  have hnodup : r.entered.Nodup := h.settled_nodup.sublist h.entered_sublist
  have hsub := List.subperm_of_subset hnodup h.defined_of_entered
  simpa [Dict.keys, Dict.size] using hsub.length_le

end Record.Orderly

/-! ### The bound is not reached -/

namespace Rules

variable {rules : Rules} {start : Memo}

/-- A record in order, with at most so many flags left that nothing is known about. -/
def Steady (rules : Rules) (start : Memo) (flags : Nat) (r : Record) : Prop :=
  r.Orderly rules start ∧ rules.unknownCount r.memo ≤ flags

lemma unknownCount_insert_le (memo : Memo) (key : String) (s : Settlement) :
    rules.unknownCount (memo.insert key s) ≤ rules.unknownCount memo := by
  refine rules.flags.countKeys_mono fun k hk => ?_
  by_contra hmemo
  simp [Dict.contains_insert_of_contains (by simpa using hmemo)] at hk

lemma unknownCount_insert_lt {memo : Memo} {key : String} {f : Flag} (s : Settlement)
    (hkey : memo.contains key = false) (hf : rules.flags.get? key = some f) :
    rules.unknownCount (memo.insert key s) < rules.unknownCount memo := by
  refine rules.flags.countKeys_lt (fun k hk => ?_) hf hkey (by simp [Dict.contains_insert_self])
  by_contra hmemo
  simp [Dict.contains_insert_of_contains (by simpa using hmemo)] at hk

lemma Steady.note {flags : Nat} {r : Record} {key : String} {s : Settlement}
    (h : Steady rules start flags r) : Steady rules start flags (r.note key s) :=
  ⟨h.1.note, (unknownCount_insert_le _ _ _).trans h.2⟩

/-- A flag is settled alike by two judges that judge alike once fewer flags are unknown. -/
lemma settle_twin {leaf leaf' : LeafJudge Record} {flags : Nat}
    (h : ∀ fewer < flags, ∀ c r r', Twin (Steady rules start fewer) r r' →
      Lockstep Eq (Twin (Steady rules start fewer)) (leaf c r) (leaf' c r'))
    (identity key : String) {r : Record} (hr : Steady rules start flags r)
    (hkey : r.memo.contains key = false) :
    Lockstep Eq (Twin (Steady rules start flags)) (Record.settle leaf rules.flags identity key r)
      (Record.settle leaf' rules.flags identity key r) := by
  have hnote : ∀ s, Steady rules start flags ((r.log (.settling key)).note key s) := fun s =>
    ⟨hr.1.settling hkey, (unknownCount_insert_le _ _ _).trans hr.2⟩
  simp only [Record.settle]
  cases hf : rules.flags.get? key with
  | none => exact .error rfl ⟨rfl, hnote _⟩
  | some f =>
    simp only
    split
    · exact .ok ⟨rfl, hnote _⟩
    · -- the conditions of the flag are judged with one unknown flag less
      set r₁ := ((r.log (.settling key)).note key .inconclusive).log (.entered key) with hr₁
      have hfewer : rules.unknownCount r₁.memo < flags :=
        (unknownCount_insert_lt .inconclusive hkey hf).trans_le hr.2
      have hrun := f.evaluate_lockstep (fun _ => rfl) identity (fun c _ => h _ hfewer c)
        ⟨rfl, hr.1.entering hkey hf, le_rfl⟩
      generalize f.evaluate leaf identity r₁ = x at hrun ⊢
      generalize f.evaluate leaf' identity r₁ = y at hrun ⊢
      have hmono : ∀ r, Steady rules start (rules.unknownCount r₁.memo) r →
          Steady rules start flags r := fun r hr => ⟨hr.1, hr.2.trans hfewer.le⟩
      cases hrun with
      | ok hst =>
        obtain ⟨rfl, hI⟩ := hst
        exact .ok ⟨rfl, (hmono _ hI).note⟩
      | error _ hst =>
        obtain ⟨rfl, hI⟩ := hst
        exact .error rfl ⟨rfl, hmono _ hI⟩

/-- Two bounds that leave room below a condition judge it alike. -/
lemma recordLeafWithin_twin (hcohorts : rules.CohortsAcyclic) (who : Identity)
    {bound bound' flags : Nat} {c : Condition} (hb : rules.room flags c < bound)
    (hb' : rules.room flags c < bound')
    {r r' : Record} (hr : Twin (Steady rules start flags) r r') :
    Lockstep Eq (Twin (Steady rules start flags)) (rules.recordLeafWithin who bound c r)
      (rules.recordLeafWithin who bound' c r') := by
  induction bound generalizing bound' flags c r r' with
  | zero => exact absurd hb (Nat.not_lt_zero _)
  | succ bound ih =>
    obtain ⟨bound', rfl⟩ := Nat.exists_eq_succ_of_ne_zero (Nat.ne_zero_of_lt hb')
    rw [recordLeafWithin_succ, recordLeafWithin_succ]
    refine rules.judgeLeafBy_lockstep (fun _ => rfl) who c (fun hc tree htree d hd r r' hr => ?_)
      (fun _ => ?_) hr
    · have hroom : rules.room flags d < rules.room flags c :=
        Nat.add_lt_add_left (hcohorts.cohortCount_lt hc htree hd) _
      exact ih (by omega) (by omega) hr
    -- a flag that is settled now cannot be met below, which leaves room for all cohorts again
    · refine Condition.judgeDependency_lockstep (fun _ => rfl) (fun _ _ key _ r r' hr => ?_)
        (fun _ _ _ _ r r' _ hr => by rw [hr.1]) hr
      obtain ⟨rfl, hI⟩ := hr
      refine askKnown_lockstep (fun _ => rfl) (fun r r' hr => by rw [hr.1])
        (fun hkey => settle_twin (fun fewer hfewer d r r' hr => ?_) who.key key hI hkey) ⟨rfl, hI⟩
      have hroom := rules.room_lt_of_lt hfewer c d
      exact ih (by omega) (by omega) hr

lemma steady_init (memo : Memo) : Steady rules memo rules.flags.size ⟨memo, []⟩ :=
  ⟨.init rules memo, rules.flags.countKeys_le_size⟩

/-- The equation of the recursion, in which no bound occurs. -/
theorem judgeLeaf_eq (hcohorts : rules.CohortsAcyclic) (who : Identity) :
    rules.judgeLeaf who =
      rules.judgeLeafBy who (rules.judgeLeaf who) (rules.judgeDependency who) := by
  funext c memo
  have hroom := rules.room_lt_referenceBound le_rfl c
  have htwin := recordLeafWithin_twin hcohorts who hroom (hroom.trans (Nat.lt_succ_self _))
    ⟨rfl, steady_init memo⟩
  have hplain := fun bound =>
    rules.recordLeafWithin_lockstep who bound c (rfl : Record.Holds ⟨memo, []⟩ memo)
  have heq := (lockstep_twin_iff.1 htwin).1
  calc rules.judgeLeaf who c memo
      = ((rules.recordLeafWithin who rules.referenceBound c ⟨memo, []⟩).1,
          (rules.recordLeafWithin who rules.referenceBound c ⟨memo, []⟩).2.memo) :=
        Prod.ext (hplain _).outcome_eq.symm (hplain _).state.symm
    _ = rules.judgeLeafBy who (rules.judgeLeaf who) (rules.judgeDependency who) c memo := by
        rw [heq]
        exact Prod.ext (hplain _).outcome_eq (hplain _).state

/-- The evaluation of a flag comes to an end: no leaf is refused on the way. An evaluation that does
not end follows references around a circle of cohorts and has no answer. -/
def Ends (rules : Rules) (who : Identity) (f : Flag) (memo : Memo) : Prop :=
  ∀ key, .refused key ∉ (rules.record who f ⟨memo, []⟩).2.events

/-- Every larger bound gives the same record, and that is in order. -/
lemma recordWithin_twin (hcohorts : rules.CohortsAcyclic) (who : Identity) (f : Flag) (memo : Memo)
    {bound : Nat} (hbound : rules.referenceBound ≤ bound) :
    rules.recordWithin who bound f ⟨memo, []⟩ = rules.record who f ⟨memo, []⟩ ∧
      Steady rules memo rules.flags.size (rules.recordWithin who bound f ⟨memo, []⟩).2 := by
  refine lockstep_twin_iff.1 (f.evaluate_lockstep (fun _ => rfl) who.key
    (fun c _ r r' hr => ?_) ⟨rfl, steady_init memo⟩)
  have hroom := rules.room_lt_referenceBound le_rfl c
  exact recordLeafWithin_twin hcohorts who (hroom.trans_le hbound) hroom hr

lemma CohortsAcyclic.orderly (hcohorts : rules.CohortsAcyclic) (who : Identity) (f : Flag)
    (memo : Memo) : (rules.record who f ⟨memo, []⟩).2.Orderly rules memo :=
  (recordWithin_twin hcohorts who f memo le_rfl).2.1

/-- Without a circle of cohorts every evaluation ends. -/
lemma CohortsAcyclic.ends (hcohorts : rules.CohortsAcyclic) (who : Identity) (f : Flag)
    (memo : Memo) : rules.Ends who f memo :=
  (hcohorts.orderly who f memo).not_refused

/-- The flags whose evaluation is entered: the flag itself, then those that are recorded. -/
def entries (rules : Rules) (who : Identity) (f : Flag) (memo : Memo) : List String :=
  f.key :: (rules.record who f ⟨memo, []⟩).2.entered.reverse

/-- An evaluation ends by itself. Its record shows no leaf that was refused, and is the same under
every larger bound. No flag is settled twice, or at all if something was known about it from the
start, so there are at most as many entries as flags, and one for the call. -/
theorem evaluate_ends (hcohorts : rules.CohortsAcyclic) (who : Identity) (f : Flag) (memo : Memo) :
    let run := rules.record who f ⟨memo, []⟩
    (run.1, run.2.memo) = rules.evaluate who f memo ∧
    (∀ bound, rules.referenceBound ≤ bound → rules.recordWithin who bound f ⟨memo, []⟩ = run) ∧
    (∀ key, .refused key ∉ run.2.events) ∧
    run.2.settled.Nodup ∧ (∀ key ∈ run.2.settled, memo.contains key = false) ∧
    run.2.entered.Sublist run.2.settled ∧
    (rules.entries who f memo).length ≤ 1 + rules.flags.size := by
  intro run
  have horderly := hcohorts.orderly who f memo
  obtain ⟨houtcome, hmemo⟩ := rules.record_eq_evaluate who f ⟨memo, []⟩
  refine ⟨Prod.ext houtcome hmemo,
    fun bound hbound => (recordWithin_twin hcohorts who f memo hbound).1,
    horderly.not_refused, horderly.settled_nodup, horderly.unknown_of_settled,
    horderly.entered_sublist, ?_⟩
  have hlength : (rules.record who f ⟨memo, []⟩).2.entered.length ≤ rules.flags.size :=
    horderly.length_entered_le
  simp only [entries, List.length_cons, List.length_reverse]
  omega

end Rules

/-- A cohort that is its own condition: a flag that asks for it has no answer. -/
example :
    let rules : Rules := ⟨∅, .ofList [("1", .leaves .all [.onCohort "1"])]⟩
    ¬rules.Ends ⟨"someone", ∅, ⟨0, 0⟩⟩ (.ofGroups "loop" [.ofConditions [.onCohort "1"]]) ∅ :=
  fun hends => hends "id" (by decide)

/-- The evaluation of a flag under definitions comes to an end, for the identity that it is
evaluated for. -/
def Definitions.Ends (d : Definitions) (now : Calendar.Instant) (distinctId : String)
    (context : Context) (f : Flag) : Prop :=
  ∀ who, d.identityFor now f distinctId context = .ok (some who) → d.rules.Ends who f ∅

lemma Rules.CohortsAcyclic.definitions_ends {d : Definitions} (h : d.rules.CohortsAcyclic)
    (now : Calendar.Instant) (distinctId : String) (context : Context) (f : Flag) :
    d.Ends now distinctId context f := fun who _ => h.ends who f ∅

/-- Two flags in a circle that leads through two cohorts. -/
def circle : Rules where
  flags := .ofList [
    ("ping", .ofGroups "ping" [.ofConditions [.onCohort "1"]]),
    ("pong", .ofGroups "pong" [.ofConditions [.onFlag "ping" ["ping"]]])]
  cohorts := .ofList [
    ("1", .leaves .all [.onCohort "2"]),
    ("2", .leaves .all [.onFlag "pong" ["pong"]])]

lemma circle_cohortsAcyclic : circle.CohortsAcyclic := by
  refine not_transGen_self_of_rank (fun id => if id = "1" then 1 else 0) fun a b hab => ?_
  obtain ⟨tree, htree, c, hc, hs, rfl⟩ := hab
  have hmem := Dict.mem_entries_of_get? htree
  simp only [show circle.cohorts.entries = [("1", .leaves .all [.onCohort "2"]),
    ("2", .leaves .all [.onFlag "pong" ["pong"]])] from rfl, List.mem_cons, Prod.mk.injEq,
    List.not_mem_nil, or_false] at hmem
  rcases hmem with ⟨rfl, rfl⟩ | ⟨rfl, rfl⟩
  · simp only [Cohort.conditions, List.mem_singleton] at hc
    subst hc
    decide
  · simp only [Cohort.conditions, List.mem_singleton] at hc
    subst hc
    cases hs

/-- Around the circle there are as many entries as the bound allows. -/
theorem evaluate_ends_circle :
    let who : Identity := ⟨"someone", ∅, ⟨0, 0⟩⟩
    let ping : Flag := .ofGroups "ping" [.ofConditions [.onCohort "1"]]
    circle.CohortsAcyclic ∧ circle.entries who ping ∅ = ["ping", "pong", "ping"] ∧
      (circle.entries who ping ∅).length ≤ 1 + circle.flags.size := by
  intro who ping
  obtain ⟨-, -, -, -, -, -, hentries⟩ := Rules.evaluate_ends circle_cohortsAcyclic who ping ∅
  exact ⟨circle_cohortsAcyclic, by decide, hentries⟩

end FeatureFlags
