import FeatureFlags.Proofs.JobSteps

/-!
# The course of a query

A query runs its course whatever other jobs do meanwhile. It comes to a stage at its beginning, and
from there to its end when the endpoint answers, if it was asked. How often it calls the endpoint
can be counted.
-/

namespace FeatureFlags

/-- The endpoint is asked. -/
def Stage.isAsking : Stage → Bool
  | .asking _ _ => true
  | .inLine _ _ | .fetching _ | .loaded _ | .answered _ => false

/-- What happens to a query as a job: it begins, other things happen meanwhile, and the endpoint
gives its answer, which counts for nothing unless it was asked. -/
def Query.course (q : Query) (job : Nat) (meanwhile : List Event)
    (answer : Except Failure FlagsResponse) : List Event :=
  .ask job q :: (meanwhile ++ [.answered job answer])

/-! ### Answers from the cache -/

namespace Service

variable {s : Service} {q : Query} {flags : ResolvedFlags} {job : Nat}

/-- The flags in the cache that answer a query, if there are any. -/
def cached? (s : Service) (q : Query) : Option ResolvedFlags :=
  (s.cache.lookupFlags s.clock q.cacheKey).1.filter q.isCoveredBy

lemma ask_of_cached (h : s.cached? q = some flags) : (s.ask job q).2 = .answered flags := by
  obtain ⟨hfound, hcovered⟩ := Option.filter_eq_some_iff.1 h
  exact ask_of_covered hfound hcovered

end Service

namespace System

variable {s : System} {job : Nat} {q : Query} {flags : ResolvedFlags}
  {events meanwhile : List Event} {answer : Except Failure FlagsResponse}

/-! ### Counting calls -/

/-- A job waits for the endpoint. -/
def isAsking (s : System) (job : Nat) : Bool := (s.stage? job).any Stage.isAsking

/-- Does a job call the endpoint at an event? -/
def calls (s : System) (job : Nat) (event : Event) : Bool :=
  !s.isAsking job && (s.step event).isAsking job

/-- How often a job calls the endpoint. -/
def callCount (s : System) (job : Nat) (events : List Event) : Nat :=
  (s.moments events).countP fun m => m.state.calls job m.event

lemma callCount_cons (s : System) (job : Nat) (event : Event) (events : List Event) :
    s.callCount job (event :: events) =
      (s.calls job event).toNat + (s.step event).callCount job events := by
  rw [callCount, moments, List.countP_cons, Nat.add_comm]
  cases s.calls job event <;> rfl

lemma callCount_append (s : System) (job : Nat) (events rest : List Event) :
    s.callCount job (events ++ rest) =
      s.callCount job events + (s.run events).callCount job rest := by
  rw [callCount, moments_append, List.countP_append]
  rfl

lemma callCount_singleton (s : System) (job : Nat) (event : Event) :
    s.callCount job [event] = (s.calls job event).toNat := callCount_cons s job event []

/-- A job that does not wait for the endpoint after an event has not called it then. -/
lemma calls_of_stage {event : Event} {stage : Stage}
    (hstage : (s.step event).stage? job = some stage) (hnot : stage.isAsking = false) :
    s.calls job event = false := by
  simp [calls, isAsking, hstage, hnot]

/-- Events about other jobs make no calls for a job. -/
lemma callCount_of_ne (hevents : ∀ event ∈ events, event.job? ≠ some job) :
    s.callCount job events = 0 := by
  induction events generalizing s with
  | nil => rfl
  | cons event rest ih =>
    obtain ⟨hevent, hrest⟩ := List.forall_mem_cons.1 hevents
    have hsame : (s.step event).isAsking job = s.isAsking job :=
      congrArg (Option.any Stage.isAsking) (stage?_step_of_ne hevent)
    rw [callCount_cons, ih hrest, calls, hsame, Bool.not_and_self]
    rfl

/-! ### From the beginning of a query to its end -/

/-- A query that does not load comes to its end with what comes out of its first stage. It has
called the endpoint at its beginning, or never. -/
theorem course_of_flags? (hflags : (s.service.ask job q).2.flags? answer = some flags)
    (hmeanwhile : ∀ event ∈ meanwhile, event.job? ≠ some job) :
    (s.run (q.course job meanwhile answer)).stage? job = some (.answered flags) ∧
      (s.stage? job = none → s.callCount job (q.course job meanwhile answer) =
        (s.service.ask job q).2.isAsking.toNat) := by
  have hasked : (s.step (.ask job q)).stage? job = some (s.service.ask job q).2 :=
    stage?_update _ _ _
  have hwaits : ((s.step (.ask job q)).run meanwhile).stage? job = some (s.service.ask job q).2 :=
    (stage?_run_of_ne hmeanwhile).trans hasked
  have hended := stage?_step_answered hwaits hflags
  have hrun : s.run (q.course job meanwhile answer) =
      ((s.step (.ask job q)).run meanwhile).step (.answered job answer) :=
    run_append (s.step (.ask job q)) meanwhile _
  refine ⟨hrun ▸ hended, fun hnew => ?_⟩
  -- of the events that are about the job, only the first can call
  have hfirst : s.calls job (.ask job q) = (s.service.ask job q).2.isAsking := by
    simp [calls, isAsking, hnew, hasked]
  have hlast : ((s.step (.ask job q)).run meanwhile).calls job (.answered job answer) = false :=
    calls_of_stage hended rfl
  rw [Query.course, callCount_cons, callCount_append, callCount_singleton, hfirst, hlast,
    callCount_of_ne hmeanwhile]
  rfl

/-- A query that is answered at its beginning calls nobody. -/
lemma course_of_answered (hstage : (s.service.ask job q).2 = .answered flags)
    (hnew : s.stage? job = none)
    (hmeanwhile : ∀ event ∈ meanwhile, event.job? ≠ some job) :
    (s.run (q.course job meanwhile answer)).stage? job = some (.answered flags) ∧
      s.callCount job (q.course job meanwhile answer) = 0 := by
  have hflags : (s.service.ask job q).2.flags? answer = some flags := by
    rw [hstage]
    rfl
  obtain ⟨hended, hcount⟩ := course_of_flags? hflags hmeanwhile
  exact ⟨hended, (hcount hnew).trans (by rw [hstage]; rfl)⟩

end System

end FeatureFlags
