import FeatureFlags.Condition.Basic
import FeatureFlags.Dict
import FeatureFlags.Flag.Value
import FeatureFlags.Undecided

/-!
# What an evaluation has learned

While a flag is evaluated, the flags it depends on are settled once each. A flag is marked
inconclusive before its own conditions are looked at, so a flag that is met again on the way counts
as inconclusive, and a circle of flags comes to an end.
-/

namespace FeatureFlags

/-- What is known about a flag: its value, or that it cannot be decided. -/
inductive Settlement where
  | inconclusive
  | settled (value : FlagValue)
  deriving DecidableEq, Repr

/-- What is known about flags so far. A flag without an entry has not been looked at. -/
abbrev Memo := Dict Settlement

/-- The value of a flag, if it is known. -/
def Memo.value? (memo : Memo) (key : String) : Option FlagValue :=
  match memo.get? key with
  | some (.settled value) => some value
  | _ => none

/-- How the leaves of a condition tree are judged, with the state before and after: what is known
about flags, if anything is remembered. -/
abbrev LeafJudge (σ : Type) := Condition → σ → Verdict × σ

end FeatureFlags
