import FeatureFlags.Context
import FeatureFlags.Remote.ResolvedFlag

/-!
# Requests for flags and their answers

All flags of one identity are asked for in one request, which carries what is known about it.
-/

namespace FeatureFlags

/-- A request for the flags of an identity. -/
structure FlagsRequest where
  projectKey : String
  distinctId : String
  context : Context
  deriving DecidableEq, Repr

/-- Encode a request; what is not known about the identity is left out. -/
def FlagsRequest.encode (r : FlagsRequest) : Json :=
  .object ([("api_key", .string r.projectKey), ("distinct_id", .string r.distinctId)]
    ++ r.context.members)

/-- An answer to a request. -/
structure FlagsResponse where
  flags : ResolvedFlags
  requestId : Option String
  /-- Some flags could not be computed. -/
  hasErrors : Bool
  /-- The resources that are over their limit. -/
  quotaLimited : Option (List String)
  deriving DecidableEq, Repr

namespace FlagsResponse

/-- Are flags over their limit? -/
def isQuotaLimited (r : FlagsResponse) : Bool :=
  (r.quotaLimited.getD []).contains "feature_flags"

/-- Decode an answer. -/
def decode? (j : Json) : Option FlagsResponse := do
  let [flags, requestId, hasErrors, quotaLimited] ←
    j.fields? [["flags"], ["requestId"], ["errorsWhileComputingFlags"], ["quotaLimited"]] | none
  let flags ← Json.withDefault? ∅ ResolvedFlags.decode? flags
  let requestId ← Json.optional? Json.asString? requestId
  let hasErrors ← Json.withDefault? false Json.asBool? hasErrors
  let quotaLimited ← Json.optional? (Json.asList? Json.asString?) quotaLimited
  pure { flags, requestId, hasErrors, quotaLimited }

/-- Encode an answer. -/
def encode (r : FlagsResponse) : Json :=
  .object ([
    ("flags", r.flags.encode),
    ("requestId", .ofOption .string r.requestId),
    ("errorsWhileComputingFlags", .bool r.hasErrors)]
    ++ (r.quotaLimited.map fun l => ("quotaLimited", .array (l.map .string))).toList)

end FlagsResponse

end FeatureFlags
