import FeatureFlags.Proofs.Termination

/-!
# What an evaluation adds to the memo

The same evaluation with a journal of the evaluations of other flags that end in it, each with what
was known when it began and what it came to. The journal changes nothing: answers and memo are those
of the plain evaluation.

While a flag is evaluated it is noted as inconclusive. This mark does not outlive the evaluation by
itself: an entry that is new in the end says what the evaluation of the flag came to, or that the
flag does not exist or is switched off. Entries that were there from the start are as they were.

Main statement: this holds of flags, trees, leaves, and conditions on flags, whatever they come to.
-/

namespace FeatureFlags

/-- What is to be noted about a flag whose evaluation has ended. -/
def Settlement.ofOutcome : Except Undecided FlagMatch → Settlement
  | .ok m => .settled m.value
  | .error _ => .inconclusive

@[simp] lemma Settlement.ofOutcome_ok (m : FlagMatch) : ofOutcome (.ok m) = .settled m.value := rfl

@[simp] lemma Settlement.ofOutcome_error (e : Undecided) : ofOutcome (.error e) = .inconclusive :=
  rfl

/-- The evaluation of a flag that has ended: what was known when it began, and what it came to. -/
structure Journal.Entry where
  key : String
  before : Memo
  outcome : Except Undecided FlagMatch

/-- What is known about flags, and which evaluations of flags have ended, the latest first. -/
structure Journal where
  memo : Memo
  ended : List Journal.Entry

namespace Journal

/-- Note something about a flag. -/
def note (j : Journal) (key : String) (s : Settlement) : Journal :=
  { j with memo := j.memo.insert key s }

/-- Enter that the evaluation of a flag has ended. -/
def close (j : Journal) (e : Entry) : Journal := { j with ended := e :: j.ended }

@[simp] lemma memo_note (j : Journal) (key : String) (s : Settlement) :
    (j.note key s).memo = j.memo.insert key s := rfl

@[simp] lemma ended_note (j : Journal) (key : String) (s : Settlement) :
    (j.note key s).ended = j.ended := rfl

@[simp] lemma memo_close (j : Journal) (e : Entry) : (j.close e).memo = j.memo := rfl

@[simp] lemma ended_close (j : Journal) (e : Entry) : (j.close e).ended = e :: j.ended := rfl

/-- Settle a flag that nothing is known about. -/
def settle (leaf : LeafJudge Journal) (flags : Dict Flag) (identity key : String) (j : Journal) :
    Except Undecided Unit × Journal :=
  match flags.get? key with
  | none => (.error (.missingDependency key), j.note key .inconclusive)
  | some f =>
    if !f.isActive then (.ok (), j.note key (.settled (.boolean false)))
    else
      let marked := j.note key .inconclusive
      match f.evaluate leaf identity marked with
      | (.ok m, j) => (.ok (), (j.close ⟨key, marked.memo, .ok m⟩).note key (.settled m.value))
      | (.error e, j) =>
        (.error (.dependencyInconclusive key), j.close ⟨key, marked.memo, .error e⟩)

/-- Break off at a leaf that lies too deep. -/
def refuse : LeafJudge Journal := fun c j => (.error (.endlessReference c.key), j)

end Journal

namespace Rules

variable (rules : Rules) (who : Identity)

/-- Judge a condition on a flag by how the conditions of flags are judged. -/
def journalDependencyBy (leaf : LeafJudge Journal) : LeafJudge Journal :=
  Condition.judgeDependency (askKnown (Journal.settle leaf rules.flags who.key) Journal.memo)
    fun j => j.memo.value?

/-- Judge a leaf to which fewer than so many references lead. -/
def journalLeafWithin : Nat → LeafJudge Journal :=
  rules.judgeLeafWithin who Journal.refuse (rules.journalDependencyBy who)

lemma journalLeafWithin_succ (bound : Nat) :
    rules.journalLeafWithin who (bound + 1) =
      rules.judgeLeafBy who (rules.journalLeafWithin who bound)
        (rules.journalDependencyBy who (rules.journalLeafWithin who bound)) := rfl

/-- Judge a leaf. -/
def journalLeaf : LeafJudge Journal := rules.journalLeafWithin who rules.referenceBound

/-- Judge a condition on a flag, as it stands. -/
def journalDependency : LeafJudge Journal := rules.journalDependencyBy who (rules.journalLeaf who)

/-- Judge a tree of conditions. -/
def journalTree (tree : Cohort) (j : Journal) : Verdict × Journal :=
  tree.judge (rules.journalLeaf who) j

/-- Evaluate a flag. -/
def journal (f : Flag) (j : Journal) : Except Undecided FlagMatch × Journal :=
  f.evaluate (rules.journalLeaf who) who.key j

end Rules

/-! ### The journal changes nothing -/

section Erasure

/-- A journal that holds the memo of a plain evaluation. -/
def Journal.Holds (j : Journal) (memo : Memo) : Prop := j.memo = memo

variable {leaf : LeafJudge Journal} {leaf' : LeafJudge Memo}

lemma Journal.settle_lockstep
    (h : ∀ c j memo, j.Holds memo → Lockstep Eq Journal.Holds (leaf c j) (leaf' c memo))
    (flags : Dict Flag) (identity key : String) {j : Journal} {memo : Memo} (hj : j.Holds memo) :
    Lockstep Eq Journal.Holds (settle leaf flags identity key j)
      (FeatureFlags.settle leaf' flags identity key memo) := by
  have hnote : ∀ {j : Journal} {memo : Memo}, j.Holds memo → ∀ s,
      (j.note key s).Holds (memo.insert key s) := fun hj s => by
    simp only [Holds, memo_note, show _ = _ from hj]
  simp only [settle, FeatureFlags.settle]
  cases flags.get? key with
  | none => exact .error rfl (hnote hj _)
  | some f =>
    simp only
    split
    · exact .ok (hnote hj _)
    · have hf := f.evaluate_lockstep (fun _ => rfl) identity (fun c _ j memo => h c j memo)
        (hnote hj .inconclusive)
      generalize f.evaluate leaf identity _ = x at hf ⊢
      generalize f.evaluate leaf' identity _ = y at hf ⊢
      cases hf with
      | ok hj => exact .ok (hnote (show Holds (close _ _) _ from hj) _)
      | error _ hj => exact .error rfl hj

namespace Rules

variable (rules : Rules) (who : Identity)

lemma journalDependencyBy_lockstep
    (h : ∀ c j memo, j.Holds memo → Lockstep Eq Journal.Holds (leaf c j) (leaf' c memo))
    (c : Condition) {j : Journal} {memo : Memo} (hj : j.Holds memo) :
    Lockstep Eq Journal.Holds (rules.journalDependencyBy who leaf c j)
      (rules.judgeDependencyBy who leaf' c memo) := by
  refine Condition.judgeDependency_lockstep (fun _ => rfl) (fun _ _ key _ j memo hj => ?_)
    (fun _ _ _ _ j memo _ (hj : j.memo = memo) => by rw [hj]) hj
  exact askKnown_lockstep (fun _ => rfl) (fun _ _ h => h)
    (fun _ => Journal.settle_lockstep h rules.flags who.key key hj) hj

lemma journalLeafWithin_lockstep (bound : Nat) (c : Condition) {j : Journal} {memo : Memo}
    (hj : j.Holds memo) :
    Lockstep Eq Journal.Holds (rules.journalLeafWithin who bound c j)
      (rules.judgeLeafWithin who refuse (rules.judgeDependencyBy who) bound c memo) := by
  have hrefuse : ∀ (c : Condition) (j : Journal) (memo : Memo), j.Holds memo →
      Lockstep Eq Journal.Holds (Journal.refuse c j) (refuse c memo) :=
    fun c j memo hj => .error rfl hj
  refine rules.judgeLeafWithin_lockstep (fun _ => rfl) who hrefuse
    (fun leaf leaf' h c j memo hj => ?_) bound c hj
  exact rules.journalDependencyBy_lockstep who h c hj

end Rules

end Erasure

/-! ### Bounds that suffice -/

namespace Rules

variable {rules : Rules} {who : Identity} {bound flags : Nat} {memo : Memo}

/-- A leaf is judged alike under every bound that leaves room for the flags that nothing is known
about. -/
lemma judgeLeafWithin_twin (hcohorts : rules.CohortsAcyclic) {c : Condition}
    (hflags : flags ≤ rules.flags.size) (hb : rules.room flags c < bound)
    (hmemo : rules.unknownCount memo ≤ flags) :
    Lockstep Eq (Twin fun memo => rules.unknownCount memo ≤ flags)
      (rules.judgeLeafWithin who refuse (rules.judgeDependencyBy who) bound c memo)
      (rules.judgeLeaf who c memo) := by
  have hsteady : Steady rules memo flags ⟨memo, []⟩ := ⟨.init rules memo, hmemo⟩
  have htwin := recordLeafWithin_twin hcohorts who hb (room_lt_referenceBound hflags c)
    ⟨rfl, hsteady⟩
  have hplain := fun bound =>
    rules.recordLeafWithin_lockstep who bound c (rfl : Record.Holds ⟨memo, []⟩ memo)
  obtain ⟨heq, -, hcount⟩ := lockstep_twin_iff.1 htwin
  refine lockstep_twin_iff.2 ⟨Prod.ext ?_ ?_, ?_⟩
  · rw [← (hplain bound).outcome_eq, heq]
    exact (hplain _).outcome_eq
  · rw [← show _ = _ from (hplain bound).state, heq]
    exact (hplain _).state
  · rwa [← show _ = _ from (hplain bound).state]

/-- A flag comes out alike under every bound that leaves room below its conditions. -/
lemma evaluateWithin_eq (hcohorts : rules.CohortsAcyclic) {f : Flag}
    (hb : ∀ c ∈ f.conditions, rules.room (rules.unknownCount memo) c < bound) :
    f.evaluate (rules.judgeLeafWithin who refuse (rules.judgeDependencyBy who) bound) who.key memo =
      rules.evaluate who f memo := by
  have htwin : Twin (fun m => rules.unknownCount m ≤ rules.unknownCount memo) memo memo :=
    ⟨rfl, le_rfl⟩
  refine (lockstep_twin_iff.1 (f.evaluate_lockstep (fun _ => rfl) who.key
    (fun c hc m m' hm => ?_) htwin)).1
  obtain ⟨rfl, hm⟩ := hm
  exact judgeLeafWithin_twin hcohorts rules.flags.countKeys_le_size (hb c hc) hm

end Rules

/-! ### Accounts -/

/-- All that is known according to one memo is known according to another. -/
def Memo.Extends (memo' memo : Memo) : Prop :=
  ∀ key s, memo.get? key = some s → memo'.get? key = some s

/-- How something comes to be noted about a flag, given which evaluations have ended. -/
inductive Rules.Explains (rules : Rules) (ended : List Journal.Entry) (key : String) :
    Settlement → Prop where
  | missing : rules.flags.get? key = none → Explains rules ended key .inconclusive
  | inactive {f : Flag} : rules.flags.get? key = some f → f.isActive = false →
      Explains rules ended key (.settled (.boolean false))
  | evaluated {e : Journal.Entry} : e ∈ ended → e.key = key →
      Explains rules ended key (.ofOutcome e.outcome)

/-- An entry is about the evaluation of a flag that can be on, between two memos: nothing was known
about the flag, it was marked as inconclusive, and what the evaluation came to is noted. -/
structure Journal.Entry.Genuine (rules : Rules) (who : Identity) (memo memo' : Memo)
    (e : Entry) : Prop where
  exists_flag : ∃ f, rules.flags.get? e.key = some f ∧ f.isActive = true ∧
    (rules.evaluate who f e.before).1 = e.outcome
  unknown : memo.get? e.key = none
  extends_memo : e.before.Extends memo
  marked : e.before.get? e.key = some .inconclusive
  noted : memo'.get? e.key = some (.ofOutcome e.outcome)

/-- What becomes of a memo: it keeps its entries, and gains such that are explained by the
evaluations of flags that have ended, each at most once. -/
structure Memo.Accounted (rules : Rules) (who : Identity) (named : String → Prop)
    (ended : List Journal.Entry) (memo memo' : Memo) : Prop where
  keeps : memo'.Extends memo
  named : ∀ key s, memo.get? key = none → memo'.get? key = some s → named key
  explained : ∀ key s, memo.get? key = none → memo'.get? key = some s →
    rules.Explains ended key s
  genuine : ∀ e ∈ ended, e.Genuine rules who memo memo'
  once : (ended.map (·.key)).Nodup

section Accounts

variable {rules : Rules} {who : Identity} {named : String → Prop}
  {ended ended' : List Journal.Entry} {memo memo' memo'' : Memo} {key : String} {s : Settlement}

namespace Memo

lemma Extends.refl (memo : Memo) : memo.Extends memo := fun _ _ h => h

lemma Extends.trans (h : memo''.Extends memo') (h' : memo'.Extends memo) : memo''.Extends memo :=
  fun key s hs => h key s (h' key s hs)

lemma Extends.get?_eq_none (h : memo'.Extends memo) (hkey : memo'.get? key = none) :
    memo.get? key = none := by
  refine Option.eq_none_iff_forall_ne_some.2 fun s hs => ?_
  cases hkey.symm.trans (h key s hs)

lemma extends_insert (hkey : memo.get? key = none) : Extends (memo.insert key s) memo := by
  intro k t hk
  have hne : key ≠ k := by
    rintro rfl
    cases hkey.symm.trans hk
  simpa [hne] using hk

lemma Extends.unknownCount_le (h : memo'.Extends memo) :
    rules.unknownCount memo' ≤ rules.unknownCount memo := by
  refine rules.flags.countKeys_mono fun k hk => ?_
  simp only [Dict.contains, Option.isSome_eq_false_iff, Option.isNone_iff_eq_none] at hk ⊢
  exact h.get?_eq_none hk

end Memo

lemma Rules.Explains.mono (h : rules.Explains ended key s) (hsub : ended ⊆ ended') :
    rules.Explains ended' key s := by
  cases h with
  | missing hkey => exact .missing hkey
  | inactive hf hoff => exact .inactive hf hoff
  | evaluated he hkey => exact .evaluated (hsub he) hkey

namespace Memo.Accounted

lemma refl (memo : Memo) : Accounted rules who named [] memo memo where
  keeps := .refl memo
  named _ _ hnone hs := by cases hnone.symm.trans hs
  explained _ _ hnone hs := by cases hnone.symm.trans hs
  genuine _ he := absurd he List.not_mem_nil
  once := .nil

/-- What is new after two parts of an evaluation is new after the first, or unknown until then. -/
lemma new_cases
    (h' : Accounted rules who named ended' memo' memo'') (hs : memo''.get? key = some s) :
    memo'.get? key = none ∨ memo'.get? key = some s := by
  cases hmid : memo'.get? key with
  | none => exact .inl rfl
  | some t => exact .inr ((h'.keeps key t hmid).symm.trans hs)

lemma trans (h : Accounted rules who named ended memo memo')
    (h' : Accounted rules who named ended' memo' memo'') :
    Accounted rules who named (ended' ++ ended) memo memo'' where
  keeps := h'.keeps.trans h.keeps
  named key s hnone hs := by
    rcases h'.new_cases hs with hmid | hmid
    · exact h'.named key s hmid hs
    · exact h.named key s hnone hmid
  explained key s hnone hs := by
    rcases h'.new_cases hs with hmid | hmid
    · exact (h'.explained key s hmid hs).mono (List.subset_append_left _ _)
    · exact (h.explained key s hnone hmid).mono (List.subset_append_right _ _)
  genuine e he := by
    rcases List.mem_append.1 he with he | he
    · -- what the second part has evaluated was unknown at its start, and so before
      have hg := h'.genuine e he
      exact { hg with
        unknown := h.keeps.get?_eq_none hg.unknown
        extends_memo := hg.extends_memo.trans h.keeps }
    · have hg := h.genuine e he
      exact { hg with noted := h'.keeps _ _ hg.noted }
  once := by
    rw [List.map_append]
    refine h'.once.append h.once fun key hkey' hkey => ?_
    obtain ⟨e', he', rfl⟩ := List.mem_map.1 hkey'
    obtain ⟨e, he, heq⟩ := List.mem_map.1 hkey
    have hnoted := (h.genuine e he).noted
    rw [heq, (h'.genuine e' he').unknown] at hnoted
    cases hnoted

/-- Something is noted about a flag that is not evaluated. -/
lemma of_insert (hkey : memo.get? key = none) (hnamed : named key)
    (hs : rules.Explains [] key s) : Accounted rules who named [] memo (memo.insert key s) where
  keeps := extends_insert hkey
  named k t hnone ht := by
    by_cases hk : key = k
    · exact hk ▸ hnamed
    · cases hnone.symm.trans (by simpa [hk] using ht)
  explained k t hnone ht := by
    by_cases hk : key = k
    · subst hk
      simp only [Dict.get?_insert, if_true, Option.some.injEq] at ht
      exact ht ▸ hs
    · cases hnone.symm.trans (by simpa [hk] using ht)
  genuine _ he := absurd he List.not_mem_nil
  once := .nil

/-- A flag is marked as inconclusive and evaluated, and what this comes to is noted in place of the
mark. -/
lemma of_evaluation {f : Flag} {outcome : Except Undecided FlagMatch}
    (hkey : memo.get? key = none) (hnamed : named key) (hf : rules.flags.get? key = some f)
    (hactive : f.isActive = true)
    (houtcome : (rules.evaluate who f (memo.insert key .inconclusive)).1 = outcome)
    (hrun : Accounted rules who named ended (memo.insert key .inconclusive) memo')
    (hmemo : ∀ k, memo''.get? k =
      if key = k then some (Settlement.ofOutcome outcome) else memo'.get? k) :
    Accounted rules who named (⟨key, memo.insert key .inconclusive, outcome⟩ :: ended)
      memo memo'' := by
  have hself : memo''.get? key = some (.ofOutcome outcome) := (hmemo key).trans (if_pos rfl)
  have hother : ∀ {k}, key ≠ k → memo''.get? k = memo'.get? k := fun hk =>
    (hmemo _).trans (if_neg hk)
  have hmarked : (memo.insert key .inconclusive).get? key = some .inconclusive :=
    Dict.get?_insert_self _ _ _
  have hne : ∀ e ∈ ended, key ≠ e.key := by
    rintro e he rfl
    cases hmarked.symm.trans (hrun.genuine e he).unknown
  -- the mark stood throughout, so the flag was not evaluated again; other keys are as they were
  refine ⟨fun k t hk => ?_, fun k t hnone ht => ?_, fun k t hnone ht => ?_, fun e he => ?_, ?_⟩
  · have hk' : key ≠ k := by
      rintro rfl
      cases hkey.symm.trans hk
    rw [hother hk']
    exact hrun.keeps k t (extends_insert hkey k t hk)
  · by_cases hk : key = k
    · exact hk ▸ hnamed
    · rw [hother hk] at ht
      exact hrun.named k t (by simpa [hk] using hnone) ht
  · by_cases hk : key = k
    · subst hk
      cases hself.symm.trans ht
      exact .evaluated List.mem_cons_self rfl
    · rw [hother hk] at ht
      exact (hrun.explained k t (by simpa [hk] using hnone) ht).mono (List.subset_cons_self _ _)
  · rcases List.mem_cons.1 he with rfl | he
    · exact ⟨⟨f, hf, hactive, houtcome⟩, hkey, extends_insert hkey, hmarked, hself⟩
    · have hg := hrun.genuine e he
      exact { hg with
        unknown := (extends_insert hkey).get?_eq_none hg.unknown
        extends_memo := hg.extends_memo.trans (extends_insert hkey)
        noted := (hother (hne e he)).trans hg.noted }
  · refine List.nodup_cons.2 ⟨fun hmem => ?_, hrun.once⟩
    obtain ⟨e, he, heq⟩ := List.mem_map.1 hmem
    exact hne e he heq.symm

end Memo.Accounted

end Accounts

/-! ### Journals grow by accounts -/

/-- A journal has grown into another: the entries that were added account for the memo. -/
def Journal.Grows (rules : Rules) (who : Identity) (named : String → Prop) (j j' : Journal) :
    Prop :=
  ∃ ended, j'.ended = ended ++ j.ended ∧ Memo.Accounted rules who named ended j.memo j'.memo

namespace Journal.Grows

variable {rules : Rules} {who : Identity} {named : String → Prop} {j j' j'' : Journal}
  {key : String} {bound : Nat}

lemma refl (j : Journal) : Grows rules who named j j := ⟨[], rfl, .refl j.memo⟩

lemma trans (h : Grows rules who named j j') (h' : Grows rules who named j' j'') :
    Grows rules who named j j'' := by
  obtain ⟨ended, heq, hacc⟩ := h
  obtain ⟨ended', heq', hacc'⟩ := h'
  refine ⟨ended' ++ ended, ?_, hacc.trans hacc'⟩
  rw [heq', heq, List.append_assoc]

lemma unknownCount_le (h : Grows rules who named j j') :
    rules.unknownCount j'.memo ≤ rules.unknownCount j.memo := by
  obtain ⟨_, -, hacc⟩ := h
  exact hacc.keeps.unknownCount_le

/-- Settling a flag that nothing is known about makes a journal grow, if judging the conditions of
flags does once one flag more is known, and if the bound suffices for them. -/
lemma settle (hcohorts : rules.CohortsAcyclic)
    (hbound : ∀ d, ∀ fewer < rules.unknownCount j.memo, rules.room fewer d < bound)
    (hleaf : ∀ k f, rules.flags.get? k = some f → ∀ d ∈ f.conditions, ∀ j',
      rules.unknownCount j'.memo < rules.unknownCount j.memo →
      Grows rules who named j' (rules.journalLeafWithin who bound d j').2)
    (hkey : j.memo.get? key = none) (hnamed : named key) :
    Grows rules who named j
      (Journal.settle (rules.journalLeafWithin who bound) rules.flags who.key key j).2 := by
  simp only [Journal.settle]
  cases hf : rules.flags.get? key with
  | none => exact ⟨[], rfl, .of_insert hkey hnamed (.missing hf)⟩
  | some f =>
    simp only
    split
    · rename_i hoff
      exact ⟨[], rfl, .of_insert hkey hnamed (.inactive hf (by simpa using hoff))⟩
    · rename_i hactive
      -- the conditions of the flag are judged with one unknown flag less
      set marked := j.note key .inconclusive with hmarked
      have hfewer : rules.unknownCount marked.memo < rules.unknownCount j.memo :=
        Rules.unknownCount_insert_lt .inconclusive (by simp [Dict.contains, hkey]) hf
      have hrun : Grows rules who named marked
          (f.evaluate (rules.journalLeafWithin who bound) who.key marked).2 :=
        (f.evaluate_lockstep (fun _ => rfl) who.key (fun d hd => lockstep_twin_of_keeps
          fun j' hj' => hj'.trans (hleaf key f hf d hd j' (hj'.unknownCount_le.trans_lt hfewer)))
          ⟨rfl, refl marked⟩).keeps
      have houtcome : (rules.evaluate who f marked.memo).1 =
          (f.evaluate (rules.journalLeafWithin who bound) who.key marked).1 := by
        have hplain := f.evaluate_lockstep (fun _ => rfl) who.key
          (fun c _ j memo => rules.journalLeafWithin_lockstep who bound c)
          (rfl : marked.Holds marked.memo)
        rw [hplain.outcome_eq, Rules.evaluateWithin_eq hcohorts fun c _ => hbound c _ hfewer]
      have hactive : f.isActive = true := by simpa using hactive
      have hmark : (f.evaluate (rules.journalLeafWithin who bound) who.key marked).2.memo.get? key =
          some .inconclusive := by
        obtain ⟨_, -, hacc⟩ := hrun
        exact hacc.keeps key _ (Dict.get?_insert_self _ _ _)
      generalize f.evaluate (rules.journalLeafWithin who bound) who.key marked = x
        at hrun houtcome hmark ⊢
      obtain ⟨ended, hended, hacc⟩ := hrun
      -- an evaluation that fails leaves the mark, any other replaces it
      obtain ⟨e | m, j'⟩ := x
      · refine ⟨_, congrArg _ hended, hacc.of_evaluation hkey hnamed hf hactive houtcome ?_⟩
        intro k
        by_cases hk : key = k
        · subst hk
          simpa using hmark
        · simp [hk]
      · refine ⟨_, congrArg _ hended, hacc.of_evaluation hkey hnamed hf hactive houtcome ?_⟩
        intro k
        simp

end Journal.Grows

namespace Rules

/-! ### Where flags are named -/

/-- Conditions that can come up below given ones: these, and those of all flags and cohorts. -/
inductive Occurs (rules : Rules) (own : List Condition) (c : Condition) : Prop where
  | own : c ∈ own → Occurs rules own c
  | flag {key : String} {f : Flag} : rules.flags.get? key = some f → c ∈ f.conditions →
      Occurs rules own c
  | cohort {id : String} {tree : Cohort} : rules.cohorts.get? id = some tree →
      c ∈ tree.conditions → Occurs rules own c

/-- A flag is named in the chain of a condition that can come up. -/
def Chained (rules : Rules) (own : List Condition) (key : String) : Prop :=
  ∃ c, rules.Occurs own c ∧ ∃ chain, c.dependencyChain = some chain ∧ key ∈ chain

/-! ### Leaves -/

variable {rules : Rules} {who : Identity} {own : List Condition} {bound : Nat} {c : Condition}
  {j : Journal}

lemma room_mono (rules : Rules) {flags flags' : Nat} (h : flags' ≤ flags) (c : Condition) :
    rules.room flags' c ≤ rules.room flags c :=
  Nat.add_le_add_right (Nat.mul_le_mul_right _ h) _

/-- A condition on a flag makes a journal grow, if judging the conditions of flags does once one
flag more is known, and if the bound suffices for them. -/
lemma journalDependencyBy_grows (hcohorts : rules.CohortsAcyclic) (hc : rules.Occurs own c)
    (hbound : ∀ d, ∀ fewer < rules.unknownCount j.memo, rules.room fewer d < bound)
    (hleaf : ∀ d j', rules.Occurs own d → rules.room (rules.unknownCount j'.memo) d < bound →
      Journal.Grows rules who (rules.Chained own) j' (rules.journalLeafWithin who bound d j').2) :
    Journal.Grows rules who (rules.Chained own) j
      (rules.journalDependencyBy who (rules.journalLeafWithin who bound) c j).2 := by
  refine (Condition.judgeDependency_lockstep (fun _ => rfl) (fun chain hchain key hkey => ?_)
    (fun _ _ _ _ j j' _ hj => by rw [hj.1]) ⟨rfl, .refl j⟩).keeps
  refine lockstep_twin_of_keeps fun j' hj' => hj'.trans ?_
  refine (askKnown_lockstep (fun _ => rfl) (fun j j' hj => by rw [hj.1]) (fun hunknown => ?_)
    ⟨rfl, .refl j'⟩).keeps
  refine lockstep_twin_iff.2 ⟨rfl, Journal.Grows.settle hcohorts (fun d fewer hfewer => ?_)
    (fun k f hf d hd j'' hj'' => ?_) (by simpa [Dict.contains] using hunknown)
    ⟨c, hc, chain, hchain, hkey⟩⟩
  · exact hbound d fewer (hfewer.trans_le hj'.unknownCount_le)
  · exact hleaf d j'' (.flag hf hd) (hbound d _ (hj''.trans_le hj'.unknownCount_le))

/-- A leaf makes a journal grow, by induction on the bound, which suffices for the flags that
nothing is known about. -/
lemma journalLeafWithin_grows (hcohorts : rules.CohortsAcyclic) (hc : rules.Occurs own c)
    (hroom : rules.room (rules.unknownCount j.memo) c < bound) :
    Journal.Grows rules who (rules.Chained own) j (rules.journalLeafWithin who bound c j).2 := by
  induction bound generalizing c j with
  | zero => exact absurd hroom (Nat.not_lt_zero _)
  | succ bound ih =>
    rw [journalLeafWithin_succ]
    refine (rules.judgeLeafBy_lockstep (fun _ => rfl) who c (fun hcohort tree htree d hd => ?_)
      (fun _ => ?_) ⟨rfl, .refl j⟩).keeps
    · refine lockstep_twin_of_keeps fun j' hj' => hj'.trans (ih (.cohort htree hd) ?_)
      have hcount : rules.cohortCount d < rules.cohortCount c :=
        hcohorts.cohortCount_lt hcohort htree hd
      have hle := rules.room_mono hj'.unknownCount_le d
      simp only [room] at hroom hle ⊢
      omega
    · refine lockstep_twin_iff.2 ⟨rfl, journalDependencyBy_grows hcohorts hc
        (fun d fewer hfewer => ?_) fun d j' hd hroom' => ih hd hroom'⟩
      have hlt := rules.room_lt_of_lt hfewer c d
      omega

/-- The bound of an evaluation suffices for every leaf. -/
lemma journalLeaf_grows (hcohorts : rules.CohortsAcyclic) (hc : rules.Occurs own c) (j : Journal) :
    Journal.Grows rules who (rules.Chained own) j (rules.journalLeaf who c j).2 :=
  journalLeafWithin_grows hcohorts hc (room_lt_referenceBound rules.flags.countKeys_le_size c)

lemma journalDependency_grows (hcohorts : rules.CohortsAcyclic) (hc : rules.Occurs own c)
    (j : Journal) :
    Journal.Grows rules who (rules.Chained own) j (rules.journalDependency who c j).2 := by
  refine journalDependencyBy_grows hcohorts hc (fun d fewer hfewer => ?_)
    fun d j' hd _ => journalLeaf_grows hcohorts hd j'
  exact room_lt_referenceBound (hfewer.le.trans rules.flags.countKeys_le_size) d

/-! ### Accounts of whole evaluations -/

/-- A step from a memo comes with a journal that accounts for the memo that it leaves. The journal
changes nothing. -/
def AccountsFor {α : Type} (rules : Rules) (who : Identity) (own : List Condition) (memo : Memo)
    (journaled : Except Undecided α × Journal) (plain : Except Undecided α × Memo) : Prop :=
  (journaled.1, journaled.2.memo) = plain ∧
    Memo.Accounted rules who (rules.Chained own) journaled.2.ended memo plain.2

lemma accountsFor_of_lockstep {α : Type} {memo : Memo} {x : Except Undecided α × Journal}
    {y : Except Undecided α × Memo} (hplain : Lockstep Eq Journal.Holds x y)
    (hgrows : Journal.Grows rules who (rules.Chained own) ⟨memo, []⟩ x.2) :
    rules.AccountsFor who own memo x y := by
  obtain ⟨ended, hended, hacc⟩ := hgrows
  have hmemo : x.2.memo = y.2 := hplain.state
  rw [List.append_nil] at hended
  exact ⟨Prod.ext hplain.outcome_eq hmemo, hended ▸ hmemo ▸ hacc⟩

/-- An evaluation only adds to the memo, and so does judging a tree, a leaf, or a condition on a
flag, whether or not it can be decided. All that is new is named in a chain, and explained: the flag
does not exist, or it is switched off, or its own evaluation has ended, and its outcome is noted. -/
theorem memo_accounted (hcohorts : rules.CohortsAcyclic) (who : Identity) (memo : Memo) :
    (∀ f : Flag, rules.AccountsFor who f.conditions memo (rules.journal who f ⟨memo, []⟩)
      (rules.evaluate who f memo)) ∧
    (∀ tree : Cohort, rules.AccountsFor who tree.conditions memo
      (rules.journalTree who tree ⟨memo, []⟩) (rules.judgeTree who tree memo)) ∧
    (∀ c : Condition, rules.AccountsFor who [c] memo (rules.journalLeaf who c ⟨memo, []⟩)
      (rules.judgeLeaf who c memo)) ∧
    ∀ c : Condition, rules.AccountsFor who [c] memo (rules.journalDependency who c ⟨memo, []⟩)
      (rules.judgeDependency who c memo) := by
  have hplain : ∀ (c : Condition) (j : Journal) (memo : Memo), j.Holds memo →
      Lockstep Eq Journal.Holds (rules.journalLeaf who c j) (rules.judgeLeaf who c memo) :=
    fun c _ _ => rules.journalLeafWithin_lockstep who rules.referenceBound c
  have hgrows : ∀ {own c}, rules.Occurs own c → ∀ j,
      Journal.Grows rules who (rules.Chained own) ⟨memo, []⟩ j →
      Journal.Grows rules who (rules.Chained own) ⟨memo, []⟩ (rules.journalLeaf who c j).2 :=
    fun hc j hj => hj.trans (journalLeaf_grows hcohorts hc j)
  refine ⟨fun f => ?_, fun tree => ?_, fun c => ?_, fun c => ?_⟩
  · refine accountsFor_of_lockstep (f.evaluate_lockstep (fun _ => rfl) who.key
      (fun c _ => hplain c) rfl) ?_
    exact (f.evaluate_lockstep (fun _ => rfl) who.key (fun c hc =>
      lockstep_twin_of_keeps (hgrows (.own hc))) ⟨rfl, .refl _⟩).keeps
  · refine accountsFor_of_lockstep (tree.judge_lockstep (fun c _ => hplain c) rfl) ?_
    exact (tree.judge_lockstep (fun c hc => lockstep_twin_of_keeps (hgrows (.own hc)))
      ⟨rfl, .refl _⟩).keeps
  · exact accountsFor_of_lockstep (hplain c _ _ rfl)
      (journalLeaf_grows hcohorts (.own List.mem_cons_self) _)
  · exact accountsFor_of_lockstep (rules.journalDependencyBy_lockstep who hplain c rfl)
      (journalDependency_grows hcohorts (.own List.mem_cons_self) _)

end Rules

/-! ### Four flags, one after the other -/

/-- A flag that is on, one that is switched off, and one that depends on itself. -/
def motley : Rules where
  flags := .ofList [
    ("closed", { Flag.ofGroups "closed" [.ofConditions []] with isActive := false }),
    ("loop", .ofGroups "loop" [.ofConditions [.onFlag "loop" ["loop"]]]),
    ("open", .ofGroups "open" [.ofConditions []])]
  cohorts := ∅

lemma motley_cohortsAcyclic : motley.CohortsAcyclic := by
  refine not_transGen_self_of_rank (fun _ => 0) fun id _ hid => ?_
  obtain ⟨tree, htree, -⟩ := hid
  cases htree

/-- Each of the flags leaves an entry, and so does one that does not exist. Two evaluations have
ended, with that of the flag that depends on itself undecided. -/
theorem memo_accounted_motley :
    let who : Identity := ⟨"someone", ∅, ⟨0, 0⟩⟩
    let tree : Cohort := .leaves .any
      [.onFlag "ghost" ["ghost"], .onFlag "loop" ["loop"], .onFlag "closed" ["closed"],
        .onFlag "open" ["known", "open"]]
    let memo : Memo := .ofList [("known", .settled (.boolean true))]
    let journaled := motley.journalTree who tree ⟨memo, []⟩
    motley.CohortsAcyclic ∧
      motley.AccountsFor who tree.conditions memo journaled (motley.judgeTree who tree memo) ∧
      (motley.judgeTree who tree memo).2.entries =
        [("closed", .settled (.boolean false)), ("ghost", .inconclusive),
          ("known", .settled (.boolean true)), ("loop", .inconclusive),
          ("open", .settled (.boolean true))] ∧
      journaled.2.ended.map (fun e => (e.key, Settlement.ofOutcome e.outcome)) =
        [("open", .settled (.boolean true)), ("loop", .inconclusive)] := by
  intro who tree memo journaled
  obtain ⟨-, htree, -, -⟩ := Rules.memo_accounted motley_cohortsAcyclic who memo
  exact ⟨motley_cohortsAcyclic, htree tree, by decide, by decide⟩

end FeatureFlags
