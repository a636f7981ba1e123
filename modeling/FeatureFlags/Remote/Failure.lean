/-!
# Failures of calls

A call to the flags service may fail for a reason that says nothing about the flags. No failure
reaches the caller of a flag check; its code is kept with the cached result.
-/

namespace FeatureFlags

/-- Why a call failed. -/
inductive Failure where
  | internal (detail : String)
  | timeout (target : String)
  | connection (detail : String)
  | status (code : Nat)
  | unreadable (detail : String)
  | quotaLimited
  | missingPersonalKey
  | definitionsNotLoaded
  deriving DecidableEq, Repr

namespace Failure

/-- The code of an answer with an unexpected status. -/
def statusCode (status : Nat) : String := s!"api_error_{status}"

/-- The code of a failure. -/
def code : Failure → String
  | .timeout _ => "timeout"
  | .connection _ => "connection_error"
  | .status code => statusCode code
  | .quotaLimited => "quota_limited"
  | .internal _ | .unreadable _ | .missingPersonalKey | .definitionsNotLoaded =>
    "unknown_error"

/-- The failure in words. -/
def message : Failure → String
  | .internal detail => s!"Internal error: {detail}"
  | .timeout target => s!"request to {target} timed out"
  | .connection detail => s!"connection error: {detail}"
  | .status code => s!"request failed with status {code}"
  | .unreadable detail => s!"failed to parse response: {detail}"
  | .quotaLimited => "feature flags are quota limited"
  | .missingPersonalKey => "no personal API key configured, local evaluation is unavailable"
  | .definitionsNotLoaded => "flag definitions have not been loaded"

end Failure

/-- The mark of a cached result for which the service could not compute all flags. -/
def errorsWhileComputing : String := "errors_while_computing_flags"

end FeatureFlags
