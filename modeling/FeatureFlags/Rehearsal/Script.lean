import FeatureFlags.Rehearsal.Endpoint
import FeatureFlags.Rehearsal.Simulation
import FeatureFlags.Service.System

/-!
# Rehearsing the service

A script sets up an endpoint, asks a service, lets time pass, and shows what comes of it. Steps can
be done together: they begin in order, each runs until it has to wait, and all have to end. The
service changes by the events of `System.step` only.
-/

namespace FeatureFlags.Rehearsal

/-! ### Scripts -/

/-- What to make of the answer to a query. -/
inductive View where
  | isEnabled (key : String) (default : Bool)
  | value (key : String) (default : FlagValue)
  | payload (key : String) (default : Json)
  | one (key : String)
  | all
  deriving DecidableEq, Repr

/-- The flag that a view needs; all of them if it names none. -/
def View.only : View → Option String
  | .isEnabled key _ | .value key _ | .payload key _ | .one key => some key
  | .all => none

/-- A step of a script. -/
inductive Step where
  /-- A step that does nothing. -/
  | pause
  | sendDefinitions (document : DefinitionsDocument)
  | failDefinitions
  | delayDefinitions (millis : Nat)
  | sendFlags (flags : ResolvedFlags)
  | delayFlags (millis : Nat)
  | failFlags (failure : Failure)
  | markErrors (hasErrors : Bool)
  | load
  | showDefinitions
  | ask (distinctId : String) (context : Context) (view : View)
  | showEntry (distinctId : String) (context : Context)
  | showRequest
  | clear
  | advanceClock (millis : Nat)
  | sleep (millis : Nat)
  | startPolling
  | shutdown
  | together (steps : List Step)

/-- What a step shows. -/
inductive Outcome where
  | nothing
  | failure (e : Failure)
  | definitions (d : Definitions)
  | truth (b : Bool)
  | value (v : FlagValue)
  | payload (j : Json)
  | flag (f : Option ResolvedFlag)
  | flags (all : ResolvedFlags)
  /-- A cache entry, if there is one, and whether it has expired. -/
  | entry (e : Option (CacheEntry × Bool))
  | request (r : Option FlagsRequest)
  | all (outcomes : List Outcome)
  deriving Inhabited

/-- What a view shows of flags. -/
def View.show (flags : ResolvedFlags) : View → Outcome
  | .isEnabled key default => .truth (flags.isEnabled key default)
  | .value key default => .value (flags.value key default)
  | .payload key default => .payload (flags.payload key default)
  | .one key => .flag (flags.get? key)
  | .all => .flags flags

/-! ### The service and its endpoint in time -/

/-- A call in flight: the job that made it, when it is answered, and its number. -/
structure Call where
  job : Nat
  due : Nat
  number : Nat

/-- The state of a rehearsal. -/
structure State where
  system : System
  endpoint : ScriptedEndpoint
  nextJob : Nat
  calls : List Call

/-- A rehearsal in which nothing has happened. -/
def State.new (config : Config) (present : Calendar.Instant) (clock : Nat) : State where
  system := .new (.new config present clock) (config.pollSeconds * 1000)
  endpoint := {}
  nextJob := 0
  calls := []

/-- Something happens to the service. -/
def State.apply (s : State) (e : Event) : State := { s with system := s.system.step e }

/-- The call that a job has made. -/
def State.call? (s : State) (job : Nat) : Option Call := s.calls.find? fun c => c.job = job

/-- Make the call that a job has come to wait for, if it does. -/
def State.makeCall (time job : Nat) (s : State) : State :=
  match s.system.stage? job with
  | some (.fetching _) =>
    let call : Call := ⟨job, time + s.endpoint.definitionsDelay, 0⟩
    { s with endpoint := s.endpoint.countDefinitions, calls := s.calls ++ [call] }
  | some (.asking q _) =>
    let endpoint := s.endpoint.countFlags (s.system.service.request q)
    let call : Call := ⟨job, time + s.endpoint.flagsDelay, endpoint.flagsCalls⟩
    { s with endpoint := endpoint, calls := s.calls ++ [call] }
  | _ => s

/-- A call is over. -/
def State.endCall (s : State) (job : Nat) : State :=
  { s with calls := s.calls.filter fun c => c.job ≠ job }

/-- Let a job go one stage further, if it can. -/
def State.moveJob (time job : Nat) (s : State) : Option State :=
  match s.system.stage? job with
  | some (.inLine _ _) =>
    if s.system.service.loader = some job then some ((s.apply (.goOn job)).makeCall time job)
    else none
  | some (.fetching _) =>
    match s.call? job with
    | some call =>
      if call.due ≤ time then
        let outcome := s.endpoint.answerDefinitions
        some (((s.endCall job).apply (.fetched job outcome)).makeCall time job)
      else none
    | none => none
  | some (.asking _ _) =>
    match s.call? job with
    | some call =>
      if call.due ≤ time then
        let (outcome, endpoint) := s.endpoint.answerFlags call.number
        some (({ s with endpoint := endpoint }.endCall job).apply (.answered job outcome))
      else none
    | none => none
  | some (.loaded _) | some (.answered _) | none => none

/-- Let a job go as far as it can. It passes at most three stages. -/
def State.runJob (time job : Nat) (s : State) : State :=
  let go (s : State) : State := (s.moveJob time job).getD s
  go (go (go s))

/-- Begin a job by an event, and let it go as far as it can. -/
def State.beginJob (time : Nat) (s : State) (event : Nat → Event) : State × Nat :=
  let job := s.nextJob
  let s := ({ s with nextJob := job + 1 }.apply (event job)).makeCall time job
  (s.runJob time job, job)

/-! ### The poller in the background -/

/-- Let a task of the poller do one thing, if it can. -/
def State.moveTask (time : Nat) (s : State) (t : PollerTask) : State × Bool :=
  match t.phase with
  | .refreshing _ =>
    match s.system.stage? t.id with
    | some (.loaded _) => (s.apply (.rest t.id), true)
    | _ =>
      match s.moveJob time t.id with
      | some s => (s, true)
      | none => (s, false)
  | .resting _ | .ended =>
    match t.move time with
    | .tick => (((s.apply (.tick t.id time)).makeCall time t.id).runJob time t.id, true)
    | .leave => (s.apply (.leave t.id), true)
    | .wait => (s, false)

/-- Let every task of the poller do one thing, if it can. -/
def State.moveTasks (time : Nat) (s : State) : State × Bool :=
  s.system.poller.tasks.foldl (fun (s, moved) t =>
    let (s, m) := s.moveTask time t
    (s, moved || m)) (s, false)

/-! ### Steps in the foreground -/

/-- What a step in the foreground waits for. -/
inductive Fiber where
  | ended (o : Outcome)
  /-- A job, of whose outcome a view is shown; a load has none. -/
  | job (id : Nat) (view : Option View)
  | asleep (due : Nat) (o : Outcome)
  /-- A shutdown waits for a task of the poller. -/
  | stopping (task deadline : Nat)
  | together (fibers : List Fiber)
  deriving Inhabited

/-- Let a job go on, and see whether it has ended. -/
def pollJob (time id : Nat) (view : Option View) (s : State) : State × Fiber :=
  let s := s.runJob time id
  match s.system.stage? id with
  | some (.loaded (.ok ())) => (s.apply (.collect id), .ended .nothing)
  | some (.loaded (.error e)) => (s.apply (.collect id), .ended (.failure e))
  | some (.answered flags) =>
    (s.apply (.collect id), .ended (view.elim .nothing (View.show flags)))
  | _ => (s, .job id view)

mutual

/-- The outcome of a step that has ended. -/
def Fiber.outcome? : Fiber → Option Outcome
  | .ended o => some o
  | .together fibers => (outcomes? fibers).map Outcome.all
  | .job _ _ | .asleep _ _ | .stopping _ _ => none

/-- The outcomes of steps that all have ended. -/
def Fiber.outcomes? : List Fiber → Option (List Outcome)
  | [] => some []
  | f :: rest => do
    let o ← f.outcome?
    let os ← outcomes? rest
    pure (o :: os)

end

mutual

/-- Let a step go on. -/
def Fiber.poll (time : Nat) : Fiber → State → State × Fiber
  | .ended o, s => (s, .ended o)
  | .job id view, s => pollJob time id view s
  | .asleep due o, s => (s, if due ≤ time then .ended o else .asleep due o)
  | .stopping task deadline, s =>
    if s.system.poller.phase? task = some .ended then (s, .ended .nothing)
    else if deadline ≤ time then ((s.apply (.abort task)).endCall task, .ended .nothing)
    else (s, .stopping task deadline)
  | .together fibers, s =>
    let (s, fibers) := pollAll time fibers s
    (s, .together fibers)

/-- Let steps go on, one after the other. -/
def Fiber.pollAll (time : Nat) : List Fiber → State → State × List Fiber
  | [], s => (s, [])
  | f :: rest, s =>
    let (s, f) := f.poll time s
    let (s, rest) := pollAll time rest s
    (s, f :: rest)

end

mutual

/-- When a waiting step is due by itself. -/
def Fiber.dueTimes : Fiber → List Nat
  | .asleep due _ => [due]
  | .stopping _ deadline => [deadline]
  | .together fibers => dueTimesOf fibers
  | .ended _ | .job _ _ => []

/-- When waiting steps are due by themselves. -/
def Fiber.dueTimesOf : List Fiber → List Nat
  | [] => []
  | f :: rest => f.dueTimes ++ dueTimesOf rest

end

/-- Change the endpoint. -/
def State.script (s : State) (f : ScriptedEndpoint → ScriptedEndpoint) : State × Fiber :=
  ({ s with endpoint := f s.endpoint }, .ended .nothing)

mutual

/-- Begin a step. -/
def begin (time : Nat) : Step → State → State × Fiber
  | .pause, s => (s, .ended .nothing)
  | .sendDefinitions d, s => s.script fun e => { e with definitions := some d }
  | .failDefinitions, s => s.script fun e => { e with definitions := none }
  | .delayDefinitions millis, s => s.script fun e => { e with definitionsDelay := millis }
  | .sendFlags flags, s => s.script fun e => { e with flags := flags }
  | .delayFlags millis, s => s.script fun e => { e with flagsDelay := millis }
  | .failFlags failure, s => s.script fun e => { e with failures := e.failures ++ [failure] }
  | .markErrors hasErrors, s => s.script fun e => { e with hasErrors := hasErrors }
  | .load, s =>
    let (s, job) := s.beginJob time .load
    pollJob time job none s
  | .showDefinitions, s =>
    match s.system.service.definitions with
    | some d => (s, .ended (.definitions d))
    | none => (s, .ended (.failure .definitionsNotLoaded))
  | .ask distinctId context view, s =>
    let (s, job) := s.beginJob time fun job => .ask job ⟨distinctId, context, view.only⟩
    pollJob time job (some view) s
  | .showEntry distinctId context, s =>
    let key := CacheKey.of distinctId context
    let service := s.system.service
    (s.apply (.lookUp key),
      .ended (.entry ((service.lookUp key).1.map fun e => (e, e.isExpired service.clock))))
  | .showRequest, s => (s, .ended (.request s.endpoint.lastRequest))
  | .clear, s => (s.apply .clear, .ended .nothing)
  | .advanceClock millis, s =>
    (s.apply (.setClock ((s.system.service.clock + millis) % Nat.pow 2 64)), .ended .nothing)
  | .sleep millis, s =>
    (s, if millis = 0 then .ended .nothing else .asleep (time + millis) .nothing)
  | .startPolling, s =>
    let accepted := s.system.service.evaluatesLocally && s.system.poller.running.isNone
    let task := s.nextJob
    (({ s with nextJob := task + 1 }).apply (.startPolling task time),
      .asleep (time + 1) (.truth accepted))
  | .shutdown, s =>
    match s.system.poller.running with
    | some task => (s.apply .cancelPolling, .stopping task (time + Poller.patience))
    | none => (s, .ended .nothing)
  | .together steps, s =>
    let (s, fibers) := beginAll time steps s
    (s, .together fibers)

/-- Begin steps in order. -/
def beginAll (time : Nat) : List Step → State → State × List Fiber
  | [], s => (s, [])
  | step :: rest, s =>
    let (s, f) := begin time step s
    let (s, rest) := beginAll time rest s
    (s, f :: rest)

end

/-! ### Scripts in time -/

/-- The service in time. -/
def simulation : Simulation State Fiber where
  poll time f s := f.poll time s
  hasEnded f := f.outcome?.isSome
  background time s := s.moveTasks time
  dueTimes s f :=
    s.calls.map Call.due ++ s.system.poller.tasks.filterMap PollerTask.due? ++ f.dueTimes

/-- What a step has shown, and the counts after it. -/
structure Report where
  outcome : Outcome
  definitionsCalls : Nat
  flagsCalls : Nat
  cacheSize : Nat

/-- Do steps one after the other, from a time on. -/
def runSteps : Nat → State → List Step → List Report
  | _, _, [] => []
  | time, s, step :: rest =>
    let (s, f) := begin time step s
    let (time, s, f) := simulation.run time s f
    let report : Report := {
      outcome := f.outcome?.getD .nothing
      definitionsCalls := s.endpoint.definitionsCalls
      flagsCalls := s.endpoint.flagsCalls
      cacheSize := s.system.service.cache.size }
    report :: runSteps time s rest

/-- Do the steps of a script. -/
def run (config : Config) (present : Calendar.Instant) (clock : Nat) (steps : List Step) :
    List Report :=
  runSteps 0 (.new config present clock) steps

end FeatureFlags.Rehearsal
