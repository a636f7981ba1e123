import FeatureFlags.Proofs.ContextKeys
import FeatureFlags.Proofs.QueryCalls
import FeatureFlags.Proofs.EntryOrigin
import FeatureFlags.Proofs.Termination

/-!
# What the endpoint adds

A query takes every flag that the definitions decide as they decide it. For what they leave open it
asks the endpoint, once, and takes from its answer what is not decided, and nothing else. So a flag
that is decided does not depend on what becomes of the others.
-/

namespace FeatureFlags

open Calendar (Instant)

/-- The order of entries under different keys does not matter. -/
lemma Dict.Distinct.ofList_eq_of_perm {α : Type} {l l' : List (String × α)} (h : Dict.Distinct l)
    (hperm : l'.Perm l) : Dict.ofList l' = Dict.ofList l := by
  have h' : Dict.Distinct l' := hperm.symm.pairwise h fun hne => hne.symm
  refine Dict.ext_get? fun k => Option.ext fun v => ?_
  rw [h'.get?_ofList_eq_some_iff, h.get?_ofList_eq_some_iff, hperm.mem_iff]

namespace Definitions

/-- The outcome of the flag under a key for an identity, if there is one and it can be decided. -/
def decided? (d : Definitions) (now : Instant) (distinctId : String) (context : Context)
    (key : String) : Option ResolvedFlag :=
  (d.flags.get? key).bind fun f =>
    (d.evaluate now f distinctId context).toOption.map (.ofMatch f)

/-- Is any flag left open for an identity? -/
def leavesOpen (d : Definitions) (now : Instant) (distinctId : String) (context : Context) : Bool :=
  d.flags.keys.any fun key => (d.decided? now distinctId context key).isNone

end Definitions

namespace Service

variable {s : Service} {d : Definitions} {q : Query} {key : String} {r : ResolvedFlag} {job : Nat}

/-! ### What is decided locally -/

/-- The order in which flags are evaluated does not matter. -/
lemma decide_of_perm {now : Instant} {flags flags' : List Flag}
    (hkeys : flags.Pairwise fun f g => f.key ≠ g.key) (hperm : flags'.Perm flags) :
    decide d now q flags' = decide d now q flags := by
  rw [decide_eq, decide_eq, hperm.any_eq,
    (distinct_outcomes hkeys).ofList_eq_of_perm (hperm.filterMap _)]

lemma decided?_of_flag {f : Flag} (hf : d.flags.get? key = some f) :
    d.decided? s.present q.distinctId q.context key = outcome? d s.present q f := by
  rw [Definitions.decided?, hf]
  rfl

lemma leavesOpen_eq_any_values :
    d.leavesOpen s.present q.distinctId q.context =
      d.flags.values.any fun f => (outcome? d s.present q f).isNone := by
  rw [Definitions.leavesOpen, Dict.keys, Dict.values, List.any_map, List.any_map]
  refine Bool.eq_iff_iff.2 ?_
  simp only [List.any_eq_true]
  refine exists_congr fun e => and_congr_right fun he => ?_
  rw [Function.comp_apply, Function.comp_apply, decided?_of_flag (Dict.get?_eq_some_iff.2 he)]

/-- A query for all flags decides those that the definitions decide, and leaves something to the
endpoint if they leave a flag open. -/
lemma evaluateLocally_all (hlocal : s.evaluatesLocally = true) (hd : s.definitions = some d)
    (hkeyed : d.Keyed) (hall : q.only = none) :
    (∀ key, (s.evaluateLocally q).1.get? key =
        d.decided? s.present q.distinctId q.context key) ∧
      (s.evaluateLocally q).2 = d.leavesOpen s.present q.distinctId q.context := by
  have hkeyed' : ∀ d ∈ s.definitions, d.Keyed := by
    rintro d' hd'
    rwa [Option.some.inj (hd'.symm.trans hd)]
  constructor
  · intro key
    rw [decides_evaluateLocally hkeyed' hlocal key, Service.decided?,
      if_pos ⟨hlocal, .inl hall⟩, hd]
    rfl
  · simp only [evaluateLocally, hd, hall, decide_eq]
    exact leavesOpen_eq_any_values.symm

/-- A query for one flag decides it if the definitions do, and leaves it to the endpoint
otherwise. -/
lemma evaluateLocally_one (hd : s.definitions = some d) (hkeyed : d.Keyed)
    (hone : q.only = some key) :
    s.evaluateLocally q =
      match d.decided? s.present q.distinctId q.context key with
      | some r => ((∅ : ResolvedFlags).insert key r, false)
      | none => (∅, true) := by
  cases hf : d.flags.get? key with
  | none => simp [evaluateLocally, hd, hone, hf, Definitions.decided?]
  | some f =>
    rw [decided?_of_flag hf]
    simp only [evaluateLocally, hd, hone, hf]
    rw [← List.nil_append [f], decide_append_singleton, hkeyed key f hf]
    rfl

/-! ### What the endpoint is asked for -/

/-- A query for all flags asks the endpoint if a flag is left open, and takes from its answer what
is not decided. -/
lemma exists_flags?_proceed_all (hlocal : s.evaluatesLocally = true) (hd : s.definitions = some d)
    (hkeyed : d.Keyed) (hall : q.only = none) (answer : Except Failure FlagsResponse) :
    (s.proceed q).isAsking = d.leavesOpen s.present q.distinctId q.context ∧
      ∃ flags, (s.proceed q).flags? answer = some flags ∧ ∀ key, flags.get? key =
        (d.decided? s.present q.distinctId q.context key).or
          (if d.leavesOpen s.present q.distinctId q.context then (givenBy answer).get? key
            else none) := by
  obtain ⟨hdecided, hopen⟩ := evaluateLocally_all hlocal hd hkeyed hall
  rw [← hopen]
  simp only [proceed, hlocal, if_true]
  cases (s.evaluateLocally q).2 with
  | false => exact ⟨rfl, _, rfl, fun key => by simp [hdecided key]⟩
  | true =>
    refine ⟨rfl, _, rfl, fun key => ?_⟩
    rw [ResolvedFlags.get?_completedBy, hdecided key]
    rfl

/-- A query for one flag is answered with it if it is decided, and else asks the endpoint for it. -/
lemma proceed_one (hlocal : s.evaluatesLocally = true) (hd : s.definitions = some d)
    (hkeyed : d.Keyed) (hone : q.only = some key) :
    s.proceed q =
      match d.decided? s.present q.distinctId q.context key with
      | some r => .answered ((∅ : ResolvedFlags).insert key r)
      | none => .asking q ∅ := by
  simp only [proceed, hlocal, if_true, evaluateLocally_one hd hkeyed hone]
  cases d.decided? s.present q.distinctId q.context key with
  | some r => rfl
  | none => rfl

lemma exists_flags?_proceed_one (hlocal : s.evaluatesLocally = true) (hd : s.definitions = some d)
    (hkeyed : d.Keyed) (hone : q.only = some key) (answer : Except Failure FlagsResponse) :
    (s.proceed q).isAsking = (d.decided? s.present q.distinctId q.context key).isNone ∧
      ∃ flags, (s.proceed q).flags? answer = some flags ∧ flags.get? key =
        (d.decided? s.present q.distinctId q.context key).or ((givenBy answer).get? key) := by
  rw [proceed_one hlocal hd hkeyed hone]
  cases d.decided? s.present q.distinctId q.context key with
  | some r => exact ⟨rfl, _, rfl, Dict.get?_insert_self _ _ _⟩
  | none => exact ⟨rfl, _, rfl, ResolvedFlags.get?_completedBy _ _ _⟩

end Service

namespace System

variable {s : System} {document : DefinitionsDocument} {job : Nat} {meanwhile : List Event}

end System

/-- The endpoint knows both flags of two, one of them otherwise, and a third. -/
def threeFlagsKnown : FlagsResponse where
  flags := .ofList [
    ("beta", ⟨"beta", false, none, 2, 0, none, none⟩),
    ("pro", ⟨"pro", true, none, 1, 0, none, none⟩),
    ("theme", ⟨"theme", true, some "dark", 3, 0, none, none⟩)]
  requestId := none
  hasErrors := false
  quotaLimited := none

end FeatureFlags
