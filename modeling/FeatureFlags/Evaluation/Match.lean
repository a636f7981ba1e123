import FeatureFlags.Evaluation.Reason
import FeatureFlags.Flag.Basic

/-!
# Matches

The outcome of evaluating a flag for an identity: whether it is on, which variant it shows, why,
and which group of conditions decided.
-/

namespace FeatureFlags

/-- The outcome of evaluating a flag. -/
structure FlagMatch where
  isMatch : Bool
  variant : Option String
  reason : MatchReason
  groupIndex : Option Nat
  payload : Option Json
  deriving DecidableEq, Repr

namespace FlagMatch

/-- The value that others see. -/
def value (m : FlagMatch) : FlagValue :=
  match m.isMatch, m.variant with
  | true, some variant => .variant variant
  | true, none => .boolean true
  | false, _ => .boolean false

/-- The flag is off, for a reason. -/
def off (reason : MatchReason) (groupIndex : Option Nat) : FlagMatch :=
  ⟨false, none, reason, groupIndex, none⟩

/-- The flag is on by a group of conditions; the payload goes by the value. -/
def on (f : Flag) (variant : Option String) (groupIndex : Nat) : FlagMatch :=
  let m : FlagMatch := ⟨true, variant, .conditionMatch, some groupIndex, none⟩
  { m with payload := f.payload? m.value }

/-- The reason in words. -/
def description (m : FlagMatch) : String := m.reason.describe m.groupIndex

end FlagMatch

end FeatureFlags
