import FeatureFlags.Proofs.Recording

/-!
# What is noted stays

An evaluation settles only flags that nothing is known about. It notes such a flag as inconclusive
first, and it may replace that by a value in the end. Nothing else that is known is replaced: what a
memo knows it goes on to know, and the values that it holds in the end are those that it held at the
start and those that were noted on the way.
-/

namespace FeatureFlags

/-- What holds of a record throughout an evaluation that began with a memo, and throughout each part
of it that began with another, the floor. -/
structure Record.Grown (start floor : Memo) (r : Record) : Prop where
  keeps : ∀ key s, floor.get? key = some s → r.memo.get? key = some s
  settled_iff : ∀ key value, r.memo.get? key = some (.settled value) ↔
    start.get? key = some (.settled value) ∨ .noted key (.settled value) ∈ r.events

namespace Record.Grown

variable {start floor floor' : Memo} {r : Record} {key : String}

lemma init (memo : Memo) : Grown memo memo ⟨memo, []⟩ where
  keeps _ _ h := h
  settled_iff _ _ := by simp

lemma log (h : Grown start floor r) {e : Event} (he : ∀ key s, e ≠ .noted key s) :
    Grown start floor (r.log e) where
  keeps := h.keeps
  settled_iff k value := by
    rw [memo_log, h.settled_iff, events_log, List.mem_cons, or_iff_right (he k _).symm]

/-- Something is noted about a flag that the floor does not know and that has no value yet. -/
lemma note (h : Grown start floor r) (hfloor : floor.get? key = none)
    (hopen : ∀ value, r.memo.get? key ≠ some (.settled value)) (s : Settlement) :
    Grown start floor (r.note key s) where
  keeps k t hk := by
    have hne : key ≠ k := by
      rintro rfl
      cases hfloor.symm.trans hk
    rw [memo_note, Dict.get?_insert, if_neg hne]
    exact h.keeps k t hk
  settled_iff k value := by
    rw [memo_note, events_note, Dict.get?_insert, List.mem_cons]
    have hbefore := h.settled_iff k value
    by_cases hk : key = k
    · subst hk
      simp only [if_true, Option.some.injEq, Event.noted.injEq, true_and, eq_comm (a := s)]
      have hnot := mt hbefore.2 (hopen value)
      tauto
    · simp only [if_neg hk, Event.noted.injEq, Ne.symm hk, false_and, false_or]
      exact hbefore

/-- A part of an evaluation starts from all that is known by then. -/
lemma restart (h : Grown start floor r) : Grown start r.memo r := ⟨fun _ _ hs => hs, h.settled_iff⟩

lemma lower (h : Grown start floor' r)
    (hfloor : ∀ key s, floor.get? key = some s → floor'.get? key = some s) :
    Grown start floor r := ⟨fun k s hs => h.keeps k s (hfloor k s hs), h.settled_iff⟩

/-- Settling a flag that nothing is known about replaces nothing, if judging its conditions does
not, whatever is known by then. -/
lemma settle {leaf : LeafJudge Record}
    (h : ∀ floor c r, Grown start floor r → Grown start floor (leaf c r).2) (flags : Dict Flag)
    (identity : String) (hr : Grown start floor r) (hkey : r.memo.get? key = none) :
    Grown start floor (Record.settle leaf flags identity key r).2 := by
  have hfloor : floor.get? key = none := by
    refine Option.eq_none_iff_forall_ne_some.2 fun s hs => ?_
    cases (hr.keeps key s hs).symm.trans hkey
  have hnote : ∀ s, Grown start floor ((r.log (.settling key)).note key s) := by
    refine (hr.log (e := .settling key) (by simp)).note hfloor fun value hs => ?_
    cases hs.symm.trans hkey
  simp only [Record.settle]
  cases flags.get? key with
  | none => exact hnote _
  | some f =>
    simp only
    split
    · exact hnote _
    · -- while the flag is evaluated, the floor includes that it is noted as inconclusive
      have hentered := (hnote .inconclusive).log (e := .entered key) (by simp)
      set r₁ := ((r.log (.settling key)).note key .inconclusive).log (.entered key)
      have hrun := (f.evaluate_lockstep (fun _ => rfl) identity
        (fun c _ => lockstep_twin_of_keeps (h r₁.memo c)) ⟨rfl, hentered.restart⟩).keeps
      have hopen : (f.evaluate leaf identity r₁).2.memo.get? key = some .inconclusive :=
        hrun.keeps key _ (Dict.get?_insert_self _ _ _)
      have hgrown := hrun.lower hentered.keeps
      generalize f.evaluate leaf identity r₁ = x at hopen hgrown ⊢
      obtain ⟨e | m, r₂⟩ := x
      · exact hgrown
      · refine hgrown.note hfloor (fun value hs => ?_) _
        cases hs.symm.trans hopen

/-- Asking for a flag replaces nothing, if judging the conditions of flags does not. -/
lemma ask {leaf : LeafJudge Record}
    (h : ∀ floor c r, Grown start floor r → Grown start floor (leaf c r).2) (flags : Dict Flag)
    (identity key : String) (hr : Grown start floor r) :
    Grown start floor (askKnown (Record.settle leaf flags identity) Record.memo key r).2 := by
  refine (askKnown_lockstep (fun _ => rfl) (fun r r' hr => by rw [hr.1]) (fun hkey => ?_)
    ⟨rfl, hr⟩).keeps
  refine lockstep_twin_iff.2 ⟨rfl, hr.settle h flags identity ?_⟩
  simpa [Dict.contains] using hkey

end Record.Grown

namespace Rules

variable {rules : Rules} {start floor : Memo}

lemma recordLeafWithin_grown (who : Identity) (bound : Nat) {c : Condition} {r : Record}
    (hr : r.Grown start floor) : (rules.recordLeafWithin who bound c r).2.Grown start floor := by
  induction bound generalizing floor c r with
  | zero => exact hr.log (by simp)
  | succ bound ih =>
    rw [recordLeafWithin_succ]
    refine (rules.judgeLeafBy_lockstep (fun _ => rfl) who c
      (fun _ _ _ d _ => lockstep_twin_of_keeps fun r hr => ih hr) (fun _ => ?_) ⟨rfl, hr⟩).keeps
    exact Condition.judgeDependency_lockstep (fun _ => rfl)
      (fun _ _ key _ => lockstep_twin_of_keeps fun r hr =>
        hr.ask (fun _ _ _ hr => ih hr) rules.flags who.key key)
      (fun _ _ _ _ r r' _ hr => by rw [hr.1]) ⟨rfl, hr⟩

/-- An evaluation replaces nothing that is known. The values in the memo that it leaves are those
that were known before and those that it has noted. -/
theorem evaluate_keeps (rules : Rules) (who : Identity) (f : Flag) (memo : Memo) :
    (∀ key s, memo.get? key = some s → (rules.evaluate who f memo).2.get? key = some s) ∧
      ∀ key value, (rules.evaluate who f memo).2.get? key = some (.settled value) ↔
        memo.get? key = some (.settled value) ∨
          .noted key (.settled value) ∈ (rules.record who f ⟨memo, []⟩).2.events := by
  have hgrown : (rules.record who f ⟨memo, []⟩).2.Grown memo memo :=
    (f.evaluate_lockstep (fun _ => rfl) who.key
      (fun c _ => lockstep_twin_of_keeps fun r hr => recordLeafWithin_grown who _ hr)
      ⟨rfl, .init memo⟩).keeps
  have hmemo := (rules.record_eq_evaluate who f ⟨memo, []⟩).2
  exact ⟨hmemo ▸ hgrown.keeps, hmemo ▸ hgrown.settled_iff⟩

end Rules

end FeatureFlags
