import FeatureFlags.Cache.Basic
import FeatureFlags.Config
import FeatureFlags.Definitions
import FeatureFlags.Remote.Exchange
import FeatureFlags.Remote.Failure

/-!
# The flag service

A check of flags asks the cache first, then evaluates locally, and puts what is left undecided to
the remote endpoint. Definitions are loaded by one job at a time; jobs that come meanwhile wait in
line. A check or a load runs until it has to wait: its `Stage` says for what. Nothing is waited for
here. Who runs the jobs brings in the answers by `Service.fetched` and `Service.answered`, and lets
a job on when its turn to load has come by `Service.granted`.
-/

namespace FeatureFlags

open Calendar (Instant)

/-- A question for one flag of an identity, or for all of them. -/
structure Query where
  distinctId : String
  context : Context
  only : Option String
  deriving DecidableEq, Repr

namespace Query

/-- The key that results for the query are cached under. -/
def cacheKey (q : Query) : CacheKey := .of q.distinctId q.context

/-- Do these flags answer the query? One for a single flag needs that flag. -/
def isCoveredBy (q : Query) (flags : ResolvedFlags) : Bool := q.only.all flags.contains

end Query

/-- What follows a load: its outcome is reported, or a query goes on. -/
inductive Purpose where
  | report
  | answer (q : Query)
  deriving DecidableEq, Repr

/-- What a job waits for, or what has come out of it. -/
inductive Stage where
  /-- It waits in line to load. So many loads were complete when it came. -/
  | inLine (seen : Nat) (purpose : Purpose)
  /-- It waits for definitions. -/
  | fetching (purpose : Purpose)
  /-- It waits for the remote endpoint; some flags are decided already. -/
  | asking (q : Query) (decided : ResolvedFlags)
  /-- A load has ended. -/
  | loaded (outcome : Except Failure Unit)
  /-- A query is answered. -/
  | answered (flags : ResolvedFlags)

/-- The state of the service. -/
structure Service where
  projectKey : String
  evaluatesLocally : Bool
  /-- The instant that relative dates look back from. -/
  present : Instant
  /-- What the clock shows, in milliseconds. -/
  clock : Nat
  cache : Cache
  definitions : Option Definitions
  completedLoads : Nat
  /-- Whether a query has tried to load definitions; only the first does. -/
  firstUseTried : Bool
  /-- The job that may load, if there is one. -/
  loader : Option Nat
  /-- The jobs in line to load, first come first. -/
  line : List Nat

namespace Service

/-- A service that has not done anything. -/
def new (config : Config) (present : Instant) (clock : Nat) : Service where
  projectKey := config.projectKey
  evaluatesLocally := config.evaluatesLocally
  present := present
  clock := clock
  cache := .empty config.cacheSize config.cacheMaxAge
  definitions := none
  completedLoads := 0
  firstUseTried := false
  loader := none
  line := []

/-! ### Answering queries -/

/-- Evaluate flags, and tell whether any of them is left undecided. -/
def decide (d : Definitions) (present : Instant) (q : Query) (flags : List Flag) :
    ResolvedFlags × Bool :=
  flags.foldl (fun (decided, isOpen) f =>
    match d.evaluate present f q.distinctId q.context with
    | .ok m => (decided.insert f.key (.ofMatch f m), isOpen)
    | .error _ => (decided, true)) (∅, false)

/-- The flags that can be decided locally, and whether anything is left for the endpoint. -/
def evaluateLocally (s : Service) (q : Query) : ResolvedFlags × Bool :=
  match s.definitions with
  | none => (∅, true)
  | some d =>
    match q.only with
    | none => decide d s.present q d.flags.values
    | some key =>
      match d.flags.get? key with
      | none => (∅, true)
      | some f => decide d s.present q [f]

/-- Evaluate a query, and turn to the endpoint if anything is left. -/
def proceed (s : Service) (q : Query) : Stage :=
  let (decided, isOpen) := if s.evaluatesLocally then s.evaluateLocally q else (∅, true)
  if isOpen then .asking q decided else .answered decided

/-- The request that a query makes of the endpoint. -/
def request (s : Service) (q : Query) : FlagsRequest := ⟨s.projectKey, q.distinctId, q.context⟩

/-- The endpoint has answered a query. What was decided locally overrides the answer; a failure
is recorded in the cache. -/
def answered (s : Service) (q : Query) (decided : ResolvedFlags) :
    Except Failure FlagsResponse → Service × Stage
  | .ok response =>
    let flags := response.flags.union decided
    let result : CachedResult := {
      flags := some flags
      requestId := response.requestId
      evaluatedAt := some s.clock
      error := if response.hasErrors then some errorsWhileComputing else none }
    ({ s with cache := s.cache.write s.clock q.cacheKey result }, .answered flags)
  | .error e =>
    let result : CachedResult := { flags := none, error := some e.code }
    ({ s with cache := s.cache.write s.clock q.cacheKey result }, .answered decided)

/-! ### Loading definitions -/

/-- The job that loads has ended: the next in line may load. -/
def release (s : Service) : Service :=
  match s.line with
  | [] => { s with loader := none }
  | next :: rest => { s with loader := some next, line := rest }

/-- Go on after a load. -/
def afterLoad (s : Service) (outcome : Except Failure Unit) : Purpose → Stage
  | .report => .loaded outcome
  | .answer q => s.proceed q

/-- A job may load now. If a load was completed since it came, it does not load again. -/
def granted (s : Service) (seen : Nat) (purpose : Purpose) : Service × Stage :=
  if s.completedLoads = seen then (s, .fetching purpose)
  else
    let s := s.release
    (s, s.afterLoad (.ok ()) purpose)

/-- Load definitions: at once, or when the job has its turn. -/
def load (s : Service) (job : Nat) (purpose : Purpose) : Service × Stage :=
  match s.loader with
  | none => { s with loader := some job }.granted s.completedLoads purpose
  | some _ => ({ s with line := s.line ++ [job] }, .inLine s.completedLoads purpose)

/-- Definitions have come, or have not. A failure leaves those that are there. -/
def fetched (s : Service) (purpose : Purpose) :
    Except Failure DefinitionsDocument → Service × Stage
  | .ok document =>
    let s := { s with
      definitions := some (.ofDocument document)
      completedLoads := s.completedLoads + 1 }.release
    (s, s.afterLoad (.ok ()) purpose)
  | .error e =>
    let s := s.release
    (s, s.afterLoad (.error e) purpose)

/-- A job that was loading, or was in line to, is gone. -/
def abandon (s : Service) (job : Nat) : Service :=
  if s.loader = some job then s.release else { s with line := s.line.filter (· ≠ job) }

/-! ### Queries -/

/-- Ask a query: the cache first. The first query that finds no definitions loads them. -/
def ask (s : Service) (job : Nat) (q : Query) : Service × Stage :=
  let (found, cache) := s.cache.lookupFlags s.clock q.cacheKey
  let s := { s with cache := cache }
  match found.filter q.isCoveredBy with
  | some flags => (s, .answered flags)
  | none =>
    if !s.evaluatesLocally || s.definitions.isSome || s.firstUseTried then (s, s.proceed q)
    else { s with firstUseTried := true }.load job (.answer q)

/-- Look up an entry of the cache. -/
def lookUp (s : Service) (key : CacheKey) : Option CacheEntry × Service :=
  let (found, cache) := s.cache.lookup s.clock key
  (found, { s with cache := cache })

/-- Drop all cached results. -/
def clear (s : Service) : Service := { s with cache := s.cache.clear }

end Service

/-! ### What callers make of answers -/

namespace ResolvedFlags

/-- Is a flag on? -/
def isEnabled (flags : ResolvedFlags) (key : String) (default : Bool) : Bool :=
  ((flags.get? key).map fun f => f.value.isTruthy).getD default

/-- The value of a flag. -/
def value (flags : ResolvedFlags) (key : String) (default : FlagValue) : FlagValue :=
  ((flags.get? key).map ResolvedFlag.value).getD default

/-- The payload of a flag. -/
def payload (flags : ResolvedFlags) (key : String) (default : Json) : Json :=
  ((flags.get? key).bind ResolvedFlag.payload).getD default

end ResolvedFlags

end FeatureFlags
