import FeatureFlags.CommandLine.Arguments
import FeatureFlags.Http.Client
import FeatureFlags.Service.Basic

/-!
# Sessions

A session of the program evaluates flags for one identity and writes what has come of it as JSON.
Where the service is and which keys it takes is said by variables of the environment. How requests
are delivered is left open: a session runs in any monad that delivers them.
-/

namespace FeatureFlags.CommandLine

/-! ### What a session leaves behind -/

/-- The exit code and the text that a session leaves behind, and a complaint if it failed. -/
structure Output where
  exitCode : Nat
  text : String
  complaint : String
  deriving DecidableEq, Repr

namespace Output

/-- The arguments could not be used. -/
def misused : Output :=
  ⟨2, "", "error: the arguments cannot be used; try --help for more information\n"⟩

/-- A setting could not be read. -/
def misconfigured (setting : String) : Output :=
  ⟨1, "", s!"Invalid configuration: {Config.complaint setting}\n"⟩

/-- A text. -/
def ofText (text : String) : Output := ⟨0, text, ""⟩

/-- A value over several lines. -/
def ofJson (j : Json) : Output := ofText (j.pretty ++ "\n")

end Output

/-- The answer to a call for the version. -/
def versionText : String := "local-evaluation 0.1.0\n"

/-- The answer to a call for help. -/
def helpText : String :=
  "Evaluate feature flags for one identity. Connection settings come from the environment

Usage: local-evaluation [OPTIONS] <DISTINCT_ID>

Arguments:
  <DISTINCT_ID>  The distinct id to evaluate flags for

Options:
      --flag <FLAG>
          Only evaluate this flag
      --person-property <PERSON_PROPERTIES>
          Person property as key=value; values are read as JSON when they parse as JSON
      --group <GROUPS>
          Group as type=key
  -h, --help
          Print help
  -V, --version
          Print version
"

/-! ### Evaluating -/

variable {m : Type → Type} [Monad m]

/-- Make the call that a stage waits for, and go on. -/
def advance (client : HttpClient) (deliver : HttpRequest → m Delivery) :
    Service × Stage → m (Service × Stage)
  | (s, .inLine seen purpose) => pure (s.granted seen purpose)
  | (s, .fetching purpose) => do
    return s.fetched purpose (← client.fetchDefinitions deliver)
  | (s, .asking q decided) => do
    return s.answered q decided (← client.fetchFlags deliver (s.request q))
  | (s, .loaded outcome) => pure (s, .loaded outcome)
  | (s, .answered flags) => pure (s, .answered flags)

/-- Load definitions if flags are to be evaluated locally. A failure is no obstacle. -/
def prepare (client : HttpClient) (deliver : HttpRequest → m Delivery) (s : Service) :
    m Service := do
  if s.evaluatesLocally then
    return (← advance client deliver (s.load 0 .report)).1
  else
    return s

/-- Ask a query. The first call may be for definitions and the second for flags; there are no
more. -/
def answer (client : HttpClient) (deliver : HttpRequest → m Delivery) (s : Service) (q : Query) :
    m ResolvedFlags := do
  let step := advance client deliver
  match (← step (← step (s.ask 0 q))).2 with
  | .answered flags => return flags
  | .inLine _ _ | .fetching _ | .asking _ _ | .loaded _ => return ∅

/-- What a session shows of the flags: all of them, or the one that was asked for. -/
def shown (only : Option String) (flags : ResolvedFlags) : Json :=
  match only with
  | some key => .ofOption ResolvedFlag.encode (flags.get? key)
  | none => flags.encode

/-- Evaluate flags for an identity. -/
def evaluate (deliver : HttpRequest → m Delivery) (present : Calendar.Instant) (clock : Nat)
    (config : Config) (q : Query) : m Output := do
  let client := HttpClient.ofConfig config
  let s ← prepare client deliver (.new config present clock)
  return .ofJson (shown q.only (← answer client deliver s q))

/-- A session with given settings and arguments. -/
def run (deliver : HttpRequest → m Delivery) (present : Calendar.Instant) (clock : Nat)
    (settings : Dict String) (arguments : List String) : m Output :=
  match readCommand? arguments with
  | none => pure .misused
  | some .showHelp => pure (.ofText helpText)
  | some .showVersion => pure (.ofText versionText)
  | some (.evaluate distinctId only context) =>
    match Config.read settings with
    | .error setting => pure (.misconfigured setting)
    | .ok config => evaluate deliver present clock config ⟨distinctId, context, only⟩

end FeatureFlags.CommandLine
