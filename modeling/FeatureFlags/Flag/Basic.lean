import FeatureFlags.Condition.Basic
import FeatureFlags.Flag.Value

/-!
# Flags

A flag lists groups of conditions. A group lets in the identities that meet all of its conditions,
up to a share of them, and may ask for a variant. Which variant an identity sees is otherwise
drawn; payloads are filed under the text of the value.
-/

namespace FeatureFlags

/-- A group of conditions, with the percentage of identities that it lets in. -/
structure ConditionGroup where
  conditions : Option (List Condition)
  rollout : Option Float
  variant : Option String
  deriving DecidableEq, Repr

/-- A variant, with the percentage of identities that see it. -/
structure Variant where
  key : String
  name : Option String
  rollout : Float
  deriving DecidableEq, Repr

/-- Whom a flag is shown to, and how. -/
structure Targeting where
  groups : List ConditionGroup
  variants : Option (List Variant)
  groupTypeIndex : Option Int
  payloads : Option (Dict Json)
  deriving DecidableEq, Repr

/-- The targeting of a flag that says nothing about it. -/
def Targeting.nobody : Targeting := ⟨[], none, none, none⟩

/-- A feature flag. -/
structure Flag where
  id : Int
  name : Option String
  key : String
  targeting : Targeting
  isDeleted : Bool
  isActive : Bool
  /-- Whether an identity keeps its value when it is recognised; that takes the remote endpoint. -/
  keepsExperience : Bool
  version : Option Int
  deriving DecidableEq, Repr

namespace Flag

/-- The groups of conditions, in declared order. -/
def groups (f : Flag) : List ConditionGroup := f.targeting.groups

/-- The variants, in declared order. -/
def variants (f : Flag) : List Variant := f.targeting.variants.getD []

/-- Is there a variant of this key? -/
def hasVariant (f : Flag) (key : String) : Bool := f.variants.any fun v => v.key = key

/-- The payload filed under a value, if it is not null. -/
def payload? (f : Flag) (value : FlagValue) : Option Json := do
  let payload ← (← f.targeting.payloads).get? value.text
  if payload.isNull then none else pure payload

end Flag

end FeatureFlags
