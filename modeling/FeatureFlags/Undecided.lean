/-!
# Reasons for leaving a condition undecided

A condition that cannot be decided from the data at hand is neither true nor false. The reason is
kept, so that the caller can say why the question has to be put to the remote endpoint.
-/

namespace FeatureFlags

/-- Why a condition could not be decided. -/
inductive Undecided where
  /-- The property that the condition looks at is not known. -/
  | missingProperty (key : String)
  /-- The operator can only be evaluated remotely. -/
  | operator (name : String)
  | invalidDate (text : String)
  | missingCohort (id : String)
  | missingDependency (key : String)
  | dependencyCycle (key : String)
  | dependencyInconclusive (key : String)
  | experienceContinuity (key : String)
  | unknownGroupType (index : Int)
  /-- The evaluation was broken off, as its references lead around a circle of cohorts and do not
  end. This is not an answer: it marks evaluations that have none. -/
  | endlessReference (key : String)
  deriving DecidableEq, Repr

/-- The reason in words. -/
def Undecided.message : Undecided → String
  | .missingProperty key => s!"can't match properties without a value, missing property: {key}"
  | .operator name => s!"operator {name} can't be evaluated locally"
  | .invalidDate text => s!"can't parse date {text}"
  | .missingCohort id => s!"cohort {id} is not part of the loaded definitions"
  | .missingDependency key => s!"flag dependency {key} is not part of the loaded definitions"
  | .dependencyCycle key => s!"circular dependency detected for flag {key}"
  | .dependencyInconclusive key => s!"flag dependency {key} could not be evaluated locally"
  | .experienceContinuity key => s!"flag {key} requires experience continuity"
  | .unknownGroupType index =>
    s!"group type index {index} is not part of the group type mapping"
  | .endlessReference key => s!"condition on {key} refers to itself"

/-- The outcome of a condition: true, false, or undecided for a reason. -/
abbrev Verdict := Except Undecided Bool

end FeatureFlags
