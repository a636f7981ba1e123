/-!
# Operators of conditions

Each operator has one name. A name that is none of them reads as `Operator.unknown`, which no
condition can be decided with.
-/

namespace FeatureFlags

/-- What a condition asks of a value. -/
inductive Operator where
  | exact
  | isNot
  | contains
  | notContains
  | pattern
  | notPattern
  | greater
  | less
  | atLeast
  | atMost
  | isSet
  | isNotSet
  | dateExact
  | dateAfter
  | dateBefore
  | inCohort
  | notInCohort
  | flagEvaluatesTo
  | unknown
  deriving DecidableEq, Repr

namespace Operator

/-- The name of an operator. -/
def name : Operator → String
  | .exact => "exact"
  | .isNot => "is_not"
  | .contains => "icontains"
  | .notContains => "not_icontains"
  | .pattern => "regex"
  | .notPattern => "not_regex"
  | .greater => "gt"
  | .less => "lt"
  | .atLeast => "gte"
  | .atMost => "lte"
  | .isSet => "is_set"
  | .isNotSet => "is_not_set"
  | .dateExact => "is_date_exact"
  | .dateAfter => "is_date_after"
  | .dateBefore => "is_date_before"
  | .inCohort => "in"
  | .notInCohort => "not_in"
  | .flagEvaluatesTo => "flag_evaluates_to"
  | .unknown => "unknown"

/-- All operators that have a name of their own. -/
def known : List Operator := [
  .exact, .isNot, .contains, .notContains, .pattern, .notPattern, .greater, .less, .atLeast,
  .atMost, .isSet, .isNotSet, .dateExact, .dateAfter, .dateBefore, .inCohort, .notInCohort,
  .flagEvaluatesTo]

/-- The operator of a name. -/
def ofName (s : String) : Operator := (known.find? fun o => o.name = s).getD .unknown

@[simp] theorem ofName_name (o : Operator) : ofName o.name = o := by
  cases o <;> decide +kernel

end Operator

end FeatureFlags
