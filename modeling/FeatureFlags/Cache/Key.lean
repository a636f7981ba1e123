import FeatureFlags.Context
import FeatureFlags.Json.Printer

/-!
# Keys of cached results

Results are kept for an identity with what is known about it. Two keys are equal when the distinct
ids are, and each part of the context is absent in both or has the same canonical text in both.
-/

namespace FeatureFlags

/-- The key of a cached result. -/
structure CacheKey where
  distinctId : String
  groups : Option String
  personProperties : Option String
  groupProperties : Option String
  deriving DecidableEq, Repr

/-- The text of a value that does not depend on the order of members. -/
def Json.canonicalText (j : Json) : String := j.canonical.compact

/-- The key of a context. -/
def CacheKey.of (distinctId : String) (c : Context) : CacheKey where
  distinctId := distinctId
  groups := c.groups.map fun g => (Json.ofDict (g.map .string)).canonicalText
  personProperties := c.personProperties.map fun p => (Json.ofDict p).canonicalText
  groupProperties := c.groupProperties.map fun g =>
    (Context.encodeGroupProperties g).canonicalText

end FeatureFlags
