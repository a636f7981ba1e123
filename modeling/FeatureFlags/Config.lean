import FeatureFlags.Decimal.Reading
import FeatureFlags.Dict
import FeatureFlags.Text.Blank
import FeatureFlags.Text.Casing

/-!
# Configuration

The settings are read from named texts, such as the variables of an environment. A setting that is
not given has a default; the first given one that cannot be read, in the order of the settings, is
the failure.
-/

namespace FeatureFlags

/-! ### Reading settings -/

/-- Read a switch; blanks around it and case do not count, and an empty text is off. -/
def readSwitch? (text : String) : Option Bool :=
  let word := String.ofList (Text.lowerText (Text.trimList text.toList))
  if ["true", "1", "yes", "on"].contains word then some true
  else if ["false", "0", "no", "off", ""].contains word then some false
  else none

/-- The complaint about a text that is no switch. -/
def switchComplaint (text : String) : String := s!"Invalid boolean value: {text}"

/-- Read a natural number of 64 bits; a plus sign may come before it. -/
def readCount? (text : String) : Option Nat :=
  let digits := match text.toList with
    | '+' :: rest => rest
    | cs => cs
  if digits.isEmpty ∨ !digits.all Char.isDigit then none
  else
    let n := Decimal.ofDigits digits
    if n < Nat.pow 2 64 then some n else none

/-! ### Settings -/

/-- The settings of a service. -/
structure Config where
  host : String
  projectKey : String
  /-- The key that definitions are downloaded with. -/
  personalKey : String
  localEvaluation : Bool
  pollSeconds : Nat
  cacheSize : Nat
  cacheMaxAge : Nat
  requestTimeout : Nat
  debug : Bool
  deriving DecidableEq, Repr

namespace Config

/-- The settings of a service on this machine, with local evaluation. -/
def trial : Config where
  host := "http://localhost:8010"
  projectKey := "phc_test_project_key"
  personalKey := "phx_test_personal_key"
  localEvaluation := true
  pollSeconds := 30
  cacheSize := 100
  cacheMaxAge := 60000
  requestTimeout := 1000
  debug := false

/-- Local evaluation takes the switch, and a key to download definitions with. -/
def evaluatesLocally (c : Config) : Bool := c.localEvaluation && !c.personalKey.isEmpty

/-- The names of the settings, in their order. -/
def settingNames : List String := [
  "HOST", "PROJECT_API_KEY", "PERSONAL_API_KEY", "LOCAL_EVALUATION", "POLL_INTERVAL_SECONDS",
  "FEATURE_FLAG_CACHE_SIZE", "FEATURE_FLAG_CACHE_MAX_AGE_MS", "REQUEST_TIMEOUT_MS", "DEBUG"]

/-- A setting, or its default if it is not given; the failure is the name of the setting. -/
def setting {α : Type} (given : Dict String) (name default : String) (read? : String → Option α) :
    Except String α :=
  match read? ((given.get? name).getD default) with
  | some a => .ok a
  | none => .error name

/-- The complaint about a setting that cannot be read. -/
def complaint (name : String) : String := s!"Failed to parse environment variable {name}"

/-- Read the settings. -/
def read (given : Dict String) : Except String Config := do
  let host ← setting given "HOST" "https://us.i.posthog.com" some
  let projectKey ← setting given "PROJECT_API_KEY" "" some
  let personalKey ← setting given "PERSONAL_API_KEY" "" some
  let localEvaluation ← setting given "LOCAL_EVALUATION" "false" readSwitch?
  let pollSeconds ← setting given "POLL_INTERVAL_SECONDS" "30" readCount?
  let cacheSize ← setting given "FEATURE_FLAG_CACHE_SIZE" "1000" readCount?
  let cacheMaxAge ← setting given "FEATURE_FLAG_CACHE_MAX_AGE_MS" "300000" readCount?
  let requestTimeout ← setting given "REQUEST_TIMEOUT_MS" "10000" readCount?
  let debug ← setting given "DEBUG" "false" readSwitch?
  pure {
    host, projectKey, personalKey, localEvaluation, pollSeconds, cacheSize, cacheMaxAge,
    requestTimeout, debug }

end Config

end FeatureFlags
