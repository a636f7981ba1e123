import FeatureFlags.Service.Basic
import FeatureFlags.Service.Poller

/-!
# The service with its jobs

Queries, loads and the refreshes of the poller are jobs that take turns on one service. What
happens is an event, and `System.step` says what it changes. An event that cannot happen, such as
an answer that nobody waits for, changes nothing. Any list of events is a way in which the jobs can
take turns.
-/

namespace FeatureFlags

/-- The service, the jobs that were begun and not taken away, and the poller. The job of a refresh
goes by the number of its task. -/
structure System where
  service : Service
  jobs : List (Nat × Stage)
  poller : Poller

/-- What can happen. -/
inductive Event where
  /-- A query or an explicit load begins. -/
  | ask (job : Nat) (q : Query)
  | load (job : Nat)
  /-- A job whose turn to load has come goes on. -/
  | goOn (job : Nat)
  /-- The definitions that a job waits for have come, or have not. -/
  | fetched (job : Nat) (outcome : Except Failure DefinitionsDocument)
  /-- The endpoint has answered a job. -/
  | answered (job : Nat) (outcome : Except Failure FlagsResponse)
  /-- The outcome of a job that has ended is taken away. -/
  | collect (job : Nat)
  /-- Somebody looks into the cache. -/
  | lookUp (key : CacheKey)
  | clear
  /-- The clock shows another time. -/
  | setClock (millis : Nat)
  | startPolling (task now : Nat)
  /-- A task of the poller begins to refresh. -/
  | tick (task now : Nat)
  /-- A refresh has ended, and its task rests. -/
  | rest (task : Nat)
  /-- A cancelled task ends. -/
  | leave (task : Nat)
  /-- A shutdown cancels the task that is running. -/
  | cancelPolling
  /-- A shutdown has waited long enough for a task. -/
  | abort (task : Nat)

namespace System

/-- A system in which nothing has happened. -/
def new (service : Service) (interval : Nat) : System := ⟨service, [], .new interval⟩

/-- The stage of a job. -/
def stage? (s : System) (job : Nat) : Option Stage :=
  (s.jobs.find? fun j => j.1 = job).map Prod.snd

/-- The jobs without one. -/
def jobsWithout (s : System) (job : Nat) : List (Nat × Stage) :=
  s.jobs.filter fun j => j.1 ≠ job

/-- The service has changed, and a job has come to a stage. -/
def update (s : System) (job : Nat) (next : Service × Stage) : System :=
  { s with service := next.1, jobs := s.jobsWithout job ++ [(job, next.2)] }

/-- A job is taken away. -/
def drop (s : System) (job : Nat) : System := { s with jobs := s.jobsWithout job }

/-- What an event changes. -/
def step (s : System) : Event → System
  | .ask job q => s.update job (s.service.ask job q)
  | .load job => s.update job (s.service.load job .report)
  | .goOn job =>
    match s.stage? job with
    | some (.inLine seen purpose) =>
      if s.service.loader = some job then s.update job (s.service.granted seen purpose) else s
    | _ => s
  | .fetched job outcome =>
    match s.stage? job with
    | some (.fetching purpose) => s.update job (s.service.fetched purpose outcome)
    | _ => s
  | .answered job outcome =>
    match s.stage? job with
    | some (.asking q decided) => s.update job (s.service.answered q decided outcome)
    | _ => s
  | .collect job =>
    match s.stage? job with
    | some (.loaded _) | some (.answered _) => s.drop job
    | _ => s
  | .lookUp key => { s with service := (s.service.lookUp key).2 }
  | .clear => { s with service := s.service.clear }
  | .setClock millis => { s with service := { s.service with clock := millis } }
  | .startPolling task now =>
    if s.service.evaluatesLocally then { s with poller := (s.poller.start task now).2 } else s
  | .tick task now =>
    match s.poller.phase? task with
    | some (.resting _) =>
      { s with poller := s.poller.tick task now }.update task (s.service.load task .report)
    | _ => s
  | .rest task =>
    match s.poller.phase? task, s.stage? task with
    | some (.refreshing _), some (.loaded _) =>
      { s.drop task with poller := s.poller.rest task }
    | _, _ => s
  | .leave task =>
    match s.poller.phase? task with
    | some (.resting _) => { s with poller := s.poller.finish task }
    | _ => s
  | .cancelPolling => { s with poller := s.poller.cancel.2 }
  | .abort task =>
    match s.poller.phase? task with
    | some .ended | none => s
    | some _ =>
      { s.drop task with
        service := s.service.abandon task
        poller := s.poller.finish task }

/-- What a list of events changes. -/
def run (s : System) (events : List Event) : System := events.foldl step s

end System

end FeatureFlags
