/-!
# Reasons of matches

Every match carries the reason for its outcome. Reasons are ranked: the one that came closest to a
match explains the outcome best. Two different reasons may have one rank.
-/

namespace FeatureFlags

/-- Why a flag matched or did not. -/
inductive MatchReason where
  | conditionMatch
  | noConditionMatch
  | outOfRollout
  | noGroupType
  | disabled
  deriving DecidableEq, Repr

namespace MatchReason

/-- The code of a reason. -/
def code : MatchReason → String
  | .conditionMatch => "condition_match"
  | .noConditionMatch => "no_condition_match"
  | .outOfRollout => "out_of_rollout_bound"
  | .noGroupType => "no_group_type"
  | .disabled => "flag_disabled"

/-- All reasons. -/
def everyReason : List MatchReason := [
  .conditionMatch, .noConditionMatch, .outOfRollout, .noGroupType, .disabled]

/-- The reason of a code. -/
def ofCode? (s : String) : Option MatchReason := everyReason.find? fun r => r.code = s

@[simp] theorem ofCode?_code (r : MatchReason) : ofCode? r.code = some r := by
  cases r <;> decide

/-- How close to a match the outcome came. -/
def rank : MatchReason → Nat
  | .conditionMatch => 3
  | .noGroupType => 2
  | .outOfRollout => 1
  | .noConditionMatch | .disabled => 0

/-- Compare reasons by rank. -/
def compareRank (r s : MatchReason) : Ordering := compare r.rank s.rank

/-- The reason in words; condition groups are counted from one. -/
def describe : MatchReason → Option Nat → String
  | .conditionMatch, some i => s!"Matched condition set {i + 1}"
  | .outOfRollout, some i => s!"Out of rollout bound for condition set {i + 1}"
  | .conditionMatch, none => "Matched conditions"
  | .outOfRollout, none => "Out of rollout bound"
  | .noConditionMatch, _ => "No matching condition set"
  | .noGroupType, _ => "Group type was not provided for this group flag"
  | .disabled, _ => "Flag is disabled"

end MatchReason

end FeatureFlags
