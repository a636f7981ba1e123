import FeatureFlags.Proofs.Lockstep

/-!
# Recorded evaluations

The same evaluation with a list of what it does besides answering: which flags it settles, whose
evaluation it enters, what it notes about flags, and which leaves it refuses because they lie too
deep. The record changes nothing: answers and memo are those of the plain evaluation.
-/

namespace FeatureFlags

/-- What an evaluation does on the way. -/
inductive Record.Event where
  /-- A flag that nothing is known about is going to be settled. -/
  | settling (key : String)
  /-- The evaluation of a flag begins. -/
  | entered (key : String)
  | noted (key : String) (s : Settlement)
  /-- A leaf with this key lies too deep to be judged: here the evaluation is broken off. -/
  | refused (key : String)
  deriving DecidableEq, Repr

/-- What is known about flags, and what was done so far, the latest first. -/
structure Record where
  memo : Memo
  events : List Record.Event

namespace Record

/-- Record an event. -/
def log (r : Record) (e : Event) : Record := { r with events := e :: r.events }

/-- Note something about a flag, and record it. -/
def note (r : Record) (key : String) (s : Settlement) : Record :=
  ⟨r.memo.insert key s, .noted key s :: r.events⟩

@[simp] lemma memo_log (r : Record) (e : Event) : (r.log e).memo = r.memo := rfl

@[simp] lemma events_log (r : Record) (e : Event) : (r.log e).events = e :: r.events := rfl

@[simp] lemma memo_note (r : Record) (key : String) (s : Settlement) :
    (r.note key s).memo = r.memo.insert key s := rfl

@[simp] lemma events_note (r : Record) (key : String) (s : Settlement) :
    (r.note key s).events = .noted key s :: r.events := rfl

/-- The flags that were settled. -/
def settled (r : Record) : List String :=
  r.events.filterMap fun e => match e with
    | .settling key => some key
    | _ => none

/-- The flags whose evaluation was entered. -/
def entered (r : Record) : List String :=
  r.events.filterMap fun e => match e with
    | .entered key => some key
    | _ => none

/-- Settle a flag that nothing is known about. -/
def settle (leaf : LeafJudge Record) (flags : Dict Flag) (identity key : String) (r : Record) :
    Except Undecided Unit × Record :=
  let r := r.log (.settling key)
  match flags.get? key with
  | none => (.error (.missingDependency key), r.note key .inconclusive)
  | some f =>
    if !f.isActive then (.ok (), r.note key (.settled (.boolean false)))
    else
      match f.evaluate leaf identity ((r.note key .inconclusive).log (.entered key)) with
      | (.ok m, r) => (.ok (), r.note key (.settled m.value))
      | (.error _, r) => (.error (.dependencyInconclusive key), r)

/-- Break off at a leaf that lies too deep. -/
def refuse : LeafJudge Record := fun c r =>
  (.error (.endlessReference c.key), r.log (.refused c.key))

end Record

namespace Rules

variable (rules : Rules) (who : Identity)

/-- Judge a condition on a flag by how the conditions of flags are judged. -/
def recordDependencyBy (leaf : LeafJudge Record) : LeafJudge Record :=
  Condition.judgeDependency (askKnown (Record.settle leaf rules.flags who.key) Record.memo)
    fun r => r.memo.value?

/-- Judge a leaf to which fewer than so many references lead. -/
def recordLeafWithin : Nat → LeafJudge Record :=
  rules.judgeLeafWithin who Record.refuse (rules.recordDependencyBy who)

lemma recordLeafWithin_succ (bound : Nat) :
    rules.recordLeafWithin who (bound + 1) =
      rules.judgeLeafBy who (rules.recordLeafWithin who bound)
        (rules.recordDependencyBy who (rules.recordLeafWithin who bound)) := rfl

/-- Evaluate a flag whose leaves lie less deep than a bound. -/
def recordWithin (bound : Nat) (f : Flag) (r : Record) : Except Undecided FlagMatch × Record :=
  f.evaluate (rules.recordLeafWithin who bound) who.key r

/-- Evaluate a flag. -/
def record (f : Flag) (r : Record) : Except Undecided FlagMatch × Record :=
  rules.recordWithin who rules.referenceBound f r

end Rules

/-! ### The record changes nothing -/

section Erasure

/-- A record that holds the memo of a plain evaluation. -/
def Record.Holds (r : Record) (memo : Memo) : Prop := r.memo = memo

variable {leaf : LeafJudge Record} {leaf' : LeafJudge Memo}

lemma Record.settle_lockstep
    (h : ∀ c r memo, r.Holds memo → Lockstep Eq Record.Holds (leaf c r) (leaf' c memo))
    (flags : Dict Flag) (identity key : String) {r : Record} {memo : Memo} (hr : r.Holds memo) :
    Lockstep Eq Record.Holds (settle leaf flags identity key r)
      (FeatureFlags.settle leaf' flags identity key memo) := by
  have hnote : ∀ {r : Record} {memo : Memo}, r.Holds memo → ∀ s,
      (r.note key s).Holds (memo.insert key s) := fun hr s => by
    simp only [Holds, memo_note, show _ = _ from hr]
  have hlog : (r.log (.settling key)).Holds memo := hr
  simp only [settle, FeatureFlags.settle]
  cases flags.get? key with
  | none => exact .error rfl (hnote hlog _)
  | some f =>
    simp only
    split
    · exact .ok (hnote hlog _)
    -- both are evaluated with the mark that nothing is decided yet
    · have hf := f.evaluate_lockstep (fun _ => rfl) identity (fun c _ r memo => h c r memo)
        (show (((r.log (.settling key)).note key .inconclusive).log (.entered key)).Holds _ from
          hnote hlog .inconclusive)
      generalize f.evaluate leaf identity _ = x at hf ⊢
      generalize f.evaluate leaf' identity _ = y at hf ⊢
      cases hf with
      | ok hr => exact .ok (hnote hr _)
      | error _ hr => exact .error rfl hr

/-- Asking for a flag is recorded faithfully, if judging the conditions of flags is. -/
lemma Record.ask_lockstep
    (h : ∀ c r memo, r.Holds memo → Lockstep Eq Record.Holds (leaf c r) (leaf' c memo))
    (flags : Dict Flag) (identity key : String) {r : Record} {memo : Memo} (hr : r.Holds memo) :
    Lockstep Eq Record.Holds (askKnown (settle leaf flags identity) Record.memo key r)
      (askKnown (FeatureFlags.settle leaf' flags identity) id key memo) :=
  askKnown_lockstep (fun _ => rfl) (fun _ _ h => h)
    (fun _ => settle_lockstep h flags identity key hr) hr

lemma Rules.recordLeafWithin_lockstep (rules : Rules) (who : Identity) (bound : Nat)
    (c : Condition) {r : Record} {memo : Memo} (hr : r.Holds memo) :
    Lockstep Eq Record.Holds (rules.recordLeafWithin who bound c r)
      (rules.judgeLeafWithin who Rules.refuse (rules.judgeDependencyBy who) bound c memo) := by
  have hrefuse : ∀ (c : Condition) (r : Record) (memo : Memo), r.Holds memo →
      Lockstep Eq Record.Holds (Record.refuse c r) (refuse c memo) :=
    fun c r memo hr => .error rfl hr
  refine rules.judgeLeafWithin_lockstep (fun _ => rfl) who hrefuse
    (fun leaf leaf' h c r memo hr => ?_) bound c hr
  exact Condition.judgeDependency_lockstep (fun _ => rfl)
    (fun _ _ key _ _ _ hr => Record.ask_lockstep h rules.flags who.key key hr)
    (fun _ _ _ _ r memo _ (hr : r.memo = memo) => by rw [hr]) hr

/-- A recorded evaluation gives the answer of the plain one and leaves the memo that it leaves. -/
theorem Rules.record_eq_evaluate (rules : Rules) (who : Identity) (f : Flag) (r : Record) :
    (rules.record who f r).1 = (rules.evaluate who f r.memo).1 ∧
      (rules.record who f r).2.memo = (rules.evaluate who f r.memo).2 := by
  have h : Lockstep Eq Record.Holds (rules.record who f r) (rules.evaluate who f r.memo) :=
    f.evaluate_lockstep (fun _ => rfl) who.key
      (fun c _ r memo hr => rules.recordLeafWithin_lockstep who _ c hr) rfl
  exact ⟨h.outcome_eq, h.state⟩

end Erasure

end FeatureFlags
