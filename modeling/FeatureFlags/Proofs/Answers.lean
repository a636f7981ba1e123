import FeatureFlags.Proofs.Reachable

/-!
# What comes out of a query

Flags in the cache answer a query that they cover. Any other query evaluates flags, and asks the
endpoint if some are left undecided. A flag that is evaluated gets its outcome whichever flags are
evaluated with it; a flag without an outcome gets what the endpoint gives.
-/

namespace FeatureFlags

open Calendar (Instant)

/-! ### Flags by their own keys -/

namespace Definitions

variable {d : Definitions} {key : String} {f : Flag}

/-- Every flag is found under its own key. -/
def Keyed (d : Definitions) : Prop := ∀ key f, d.flags.get? key = some f → f.key = key

lemma keyed_ofDocument (document : DefinitionsDocument) : (ofDocument document).Keyed := by
  intro key f hf
  obtain ⟨g, -, hg⟩ := List.mem_map.1 (Dict.mem_of_get?_ofList hf)
  obtain ⟨rfl, rfl⟩ := Prod.mk.inj hg
  rfl

lemma Keyed.mem_values_iff (hd : d.Keyed) :
    f ∈ d.flags.values ∧ f.key = key ↔ d.flags.get? key = some f := by
  constructor
  · rintro ⟨hf, rfl⟩
    obtain ⟨⟨k, g⟩, he, rfl⟩ := List.mem_map.1 hf
    have hget := Dict.get?_eq_some_iff.2 he
    rwa [hd k g hget]
  · intro hf
    exact ⟨List.mem_map_of_mem (Dict.mem_entries_of_get? hf), hd key f hf⟩

lemma Keyed.pairwise_values (hd : d.Keyed) :
    d.flags.values.Pairwise fun f g => f.key ≠ g.key := by
  refine List.pairwise_map.2 (d.flags.distinct_entries.imp_of_mem fun {a b} ha hb hne => ?_)
  rwa [hd a.1 a.2 (Dict.get?_eq_some_iff.2 ha), hd b.1 b.2 (Dict.get?_eq_some_iff.2 hb)]

end Definitions

/-! ### Local evaluation -/

/-- A query evaluates a flag if it is for the flag, or for all flags. -/
def Query.Evaluates (q : Query) (key : String) : Prop := q.only = none ∨ q.only = some key

namespace Service

variable {s : Service} {d : Definitions} {now : Instant} {q : Query} {key : String} {f : Flag}

/-- The outcome of a flag, if it can be decided. -/
def outcome? (d : Definitions) (now : Instant) (q : Query) (f : Flag) : Option ResolvedFlag :=
  (d.evaluate now f q.distinctId q.context).toOption.map (.ofMatch f)

lemma decide_append_singleton (flags : List Flag) (f : Flag) :
    decide d now q (flags ++ [f]) =
      match outcome? d now q f with
      | some r => ((decide d now q flags).1.insert f.key r, (decide d now q flags).2)
      | none => ((decide d now q flags).1, true) := by
  simp only [decide, outcome?, List.foldl_append, List.foldl_cons, List.foldl_nil]
  cases d.evaluate now f q.distinctId q.context with
  | ok m => rfl
  | error e => rfl

lemma decide_eq (flags : List Flag) :
    decide d now q flags =
      (.ofList (flags.filterMap fun f => (outcome? d now q f).map fun r => (f.key, r)),
        flags.any fun f => (outcome? d now q f).isNone) := by
  induction flags using List.reverseRecOn with
  | nil => rfl
  | append_singleton flags f ih =>
    rw [decide_append_singleton, ih, List.filterMap_append, List.any_append]
    cases h : outcome? d now q f with
    | some r => simp [h, Dict.ofList, List.foldl_append]
    | none => simp [h]

lemma distinct_outcomes {flags : List Flag} (hflags : flags.Pairwise fun f g => f.key ≠ g.key) :
    Dict.Distinct (flags.filterMap fun f => (outcome? d now q f).map fun r => (f.key, r)) := by
  refine List.pairwise_filterMap.2 (hflags.imp fun {f g} hne a ha b hb => ?_)
  obtain ⟨_, -, rfl⟩ := Option.map_eq_some_iff.1 ha
  obtain ⟨_, -, rfl⟩ := Option.map_eq_some_iff.1 hb
  exact hne

/-- A flag that is evaluated gets its outcome, whichever flags are evaluated with it. -/
lemma get?_decide {flags : List Flag} (hflags : flags.Pairwise fun f g => f.key ≠ g.key)
    (hf : ∀ g, g ∈ flags ∧ g.key = key ↔ g = f) :
    (decide d now q flags).1.get? key = outcome? d now q f := by
  ext r
  rw [decide_eq, (distinct_outcomes hflags).get?_ofList_eq_some_iff, List.mem_filterMap]
  constructor
  · rintro ⟨g, hg, hr⟩
    obtain ⟨_, hr, heq⟩ := Option.map_eq_some_iff.1 hr
    obtain ⟨rfl, rfl⟩ := Prod.mk.inj heq
    rwa [← (hf g).1 ⟨hg, rfl⟩]
  · intro hr
    obtain ⟨hmem, rfl⟩ := (hf f).2 rfl
    exact ⟨f, hmem, by rw [hr, Option.map_some]⟩

/-- Every query that evaluates a flag decides it alike, and asks the endpoint if it is left open. -/
lemma get?_evaluateLocally (hd : s.definitions = some d) (hkeyed : d.Keyed)
    (hf : d.flags.get? key = some f) (hq : q.Evaluates key) :
    (s.evaluateLocally q).1.get? key = outcome? d s.present q f ∧
      (outcome? d s.present q f = none → (s.evaluateLocally q).2 = true) := by
  rcases hq with hq | hq
  · simp only [evaluateLocally, hd, hq]
    refine ⟨get?_decide hkeyed.pairwise_values fun g => ?_, fun hnone => ?_⟩
    · rw [hkeyed.mem_values_iff, hf, Option.some.injEq, eq_comm]
    · rw [decide_eq, List.any_eq_true]
      exact ⟨f, (hkeyed.mem_values_iff.2 hf).1, by rw [hnone, Option.isNone_none]⟩
  · simp only [evaluateLocally, hd, hq, hf]
    refine ⟨get?_decide (List.pairwise_singleton _ _) fun g => ?_, fun hnone => ?_⟩
    · rw [List.mem_singleton]
      exact ⟨And.left, fun h => ⟨h, h ▸ hkeyed key f hf⟩⟩
    · simp only [decide_eq, List.any_cons, hnone, Option.isNone_none, Bool.true_or]

end Service

/-! ### What comes out of a query -/

/-- The flags that the endpoint gives; a failure gives none. -/
def givenBy : Except Failure FlagsResponse → ResolvedFlags
  | .ok response => response.flags
  | .error _ => ∅

/-- Flags that are decided, and those that the endpoint gives besides. -/
def ResolvedFlags.completedBy (decided : ResolvedFlags) :
    Except Failure FlagsResponse → ResolvedFlags
  | .ok response => response.flags.union decided
  | .error _ => decided

lemma ResolvedFlags.get?_completedBy (decided : ResolvedFlags)
    (answer : Except Failure FlagsResponse) (key : String) :
    (decided.completedBy answer).get? key =
      (decided.get? key).or ((givenBy answer).get? key) := by
  cases answer with
  | ok response => exact Dict.get?_union _ _ _
  | error e => simp [completedBy, givenBy]

/-- The flags that come out of a stage, if the endpoint gives an answer when it is asked. -/
def Stage.flags? (answer : Except Failure FlagsResponse) : Stage → Option ResolvedFlags
  | .asking _ decided => some (decided.completedBy answer)
  | .answered flags => some flags
  | .inLine _ _ | .fetching _ | .loaded _ => none

namespace Service

variable {s : Service} {q : Query} {job : Nat} {flags : ResolvedFlags} {d : Definitions}
  {key : String} {f : Flag}

lemma answered_snd (s : Service) (q : Query) (decided : ResolvedFlags)
    (answer : Except Failure FlagsResponse) :
    (s.answered q decided answer).2 = .answered (decided.completedBy answer) := by
  cases answer with
  | ok response => rfl
  | error e => rfl

/-- Flags in the cache answer a query that they cover. -/
lemma ask_of_covered (hfound : (s.cache.lookupFlags s.clock q.cacheKey).1 = some flags)
    (hcovered : q.isCoveredBy flags = true) : (s.ask job q).2 = .answered flags := by
  simp only [ask, hfound, Option.filter_some, hcovered, if_true]

/-- With definitions at hand, any other query is evaluated. -/
lemma ask_of_not_covered (hdefinitions : s.definitions.isSome = true)
    (hfound : (s.cache.lookupFlags s.clock q.cacheKey).1.filter q.isCoveredBy = none) :
    (s.ask job q).2 = s.proceed q := by
  simp only [ask, hfound, hdefinitions, Bool.or_true, Bool.true_or, if_true]
  rfl

/-- A query that evaluates a flag finds its outcome, or what the endpoint gives if there is none. -/
lemma exists_flags?_proceed (hlocal : s.evaluatesLocally = true)
    (hd : s.definitions = some d) (hkeyed : d.Keyed) (hf : d.flags.get? key = some f)
    (hq : q.Evaluates key) (answer : Except Failure FlagsResponse) :
    ∃ flags, (s.proceed q).flags? answer = some flags ∧
      flags.get? key = (outcome? d s.present q f).or ((givenBy answer).get? key) := by
  obtain ⟨hget, hopen⟩ := get?_evaluateLocally hd hkeyed hf hq
  simp only [proceed, hlocal, if_true]
  split
  · refine ⟨_, rfl, ?_⟩
    rw [ResolvedFlags.get?_completedBy, hget]
  -- nothing is open, so the flag is among those that are decided
  · rename_i hclosed
    refine ⟨_, rfl, ?_⟩
    cases hout : outcome? d s.present q f with
    | none => exact absurd (hopen hout) hclosed
    | some r => rw [hget, hout, Option.some_or]

end Service

namespace System

/-- The flags that come out of a query, if the endpoint gives an answer when it is asked. -/
def resolve? (s : System) (job : Nat) (q : Query) (answer : Except Failure FlagsResponse) :
    Option ResolvedFlags :=
  match (s.run [.ask job q, .answered job answer]).stage? job with
  | some (.answered flags) => some flags
  | _ => none

variable {s : System} {job : Nat} {q : Query} {flags : ResolvedFlags}
  {answer : Except Failure FlagsResponse}

@[simp] lemma stage?_update (s : System) (job : Nat) (next : Service × Stage) :
    (s.update job next).stage? job = some next.2 := by
  have hwithout : (s.jobsWithout job).find? (fun j => j.1 = job) = none := by
    simp [jobsWithout]
  simp [update, stage?, hwithout]

lemma stage?_step_answered {stage : Stage} (hstage : s.stage? job = some stage)
    (hflags : stage.flags? answer = some flags) :
    (s.step (.answered job answer)).stage? job = some (.answered flags) := by
  cases stage with
  | asking q decided =>
    obtain rfl := Option.some.inj hflags
    simp only [step, hstage, stage?_update, Service.answered_snd]
  | answered found =>
    obtain rfl := Option.some.inj hflags
    simp only [step, hstage]
  | inLine | fetching | loaded => cases hflags

/-- What comes out of a query comes out of the first stage that it comes to. -/
lemma resolve?_eq_some (hflags : (s.service.ask job q).2.flags? answer = some flags) :
    s.resolve? job q answer = some flags := by
  have hasked : (s.step (.ask job q)).stage? job = some (s.service.ask job q).2 :=
    stage?_update _ _ _
  have hanswered := stage?_step_answered hasked hflags
  simp only [resolve?, run, List.foldl_cons, List.foldl_nil, hanswered]

lemma resolve?_of_covered
    (hfound : (s.service.cache.lookupFlags s.service.clock q.cacheKey).1 = some flags)
    (hcovered : q.isCoveredBy flags = true) : s.resolve? job q answer = some flags := by
  refine resolve?_eq_some ?_
  rw [Service.ask_of_covered hfound hcovered]
  rfl

lemma resolve?_of_not_covered (hdefinitions : s.service.definitions.isSome = true)
    (hfound : (s.service.cache.lookupFlags s.service.clock q.cacheKey).1.filter q.isCoveredBy
      = none)
    (hflags : (s.service.proceed q).flags? answer = some flags) :
    s.resolve? job q answer = some flags := by
  refine resolve?_eq_some ?_
  rw [Service.ask_of_not_covered hdefinitions hfound]
  exact hflags

end System

/-! ### A small answer to write examples with -/

/-- The endpoint knows one flag, which is off. -/
def proIsOff : FlagsResponse where
  flags := .ofList [("pro", ⟨"pro", false, none, 1, 0, none, none⟩)]
  requestId := none
  hasErrors := false
  quotaLimited := none

end FeatureFlags
