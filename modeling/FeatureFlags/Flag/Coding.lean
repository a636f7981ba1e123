import FeatureFlags.Flag.Basic

/-!
# Flags as JSON

The decoders and encoders of flags and their parts. Fields that have a default may be absent, and
those that are optional may be null as well.
-/

namespace FeatureFlags

/-! ### Groups of conditions -/

/-- The fields of a group of conditions. -/
def ConditionGroup.fieldNames : List (List String) := [
  ["properties"], ["rollout_percentage"], ["variant"]]

/-- Decode a group of conditions. -/
def ConditionGroup.decode? (j : Json) : Option ConditionGroup := do
  let [conditions, rollout, variant] ← j.fields? fieldNames | none
  let conditions ← Json.optional? (Json.asList? Condition.decode?) conditions
  let rollout ← Json.optional? Json.asFloat? rollout
  let variant ← Json.optional? Json.asString? variant
  pure { conditions, rollout, variant }

/-- Encode a group of conditions. -/
def ConditionGroup.encode (g : ConditionGroup) : Json :=
  .object [
    ("properties", .ofOption (fun cs => .array (cs.map Condition.encode)) g.conditions),
    ("rollout_percentage", .ofOption .float g.rollout),
    ("variant", .ofOption .string g.variant)]

/-! ### Variants -/

/-- The fields of a variant. -/
def Variant.fieldNames : List (List String) := [["key"], ["name"], ["rollout_percentage"]]

/-- Decode a variant. -/
def Variant.decode? (j : Json) : Option Variant := do
  let [key, name, rollout] ← j.fields? fieldNames | none
  let key ← Json.required? Json.asString? key
  let name ← Json.optional? Json.asString? name
  let rollout ← Json.required? Json.asFloat? rollout
  pure { key, name, rollout }

/-- Encode a variant. -/
def Variant.encode (v : Variant) : Json :=
  .object [
    ("key", .string v.key),
    ("name", .ofOption .string v.name),
    ("rollout_percentage", .float v.rollout)]

/-- Decode the variants of a flag. -/
def Targeting.decodeVariants? (j : Json) : Option (List Variant) := do
  let [variants] ← j.fields? [["variants"]] | none
  Json.withDefault? [] (Json.asList? Variant.decode?) variants

/-- Encode the variants of a flag. -/
def Targeting.encodeVariants (vs : List Variant) : Json :=
  .object [("variants", .array (vs.map Variant.encode))]

/-! ### Targeting -/

/-- The fields of the targeting of a flag. -/
def Targeting.fieldNames : List (List String) := [
  ["groups"], ["multivariate"], ["aggregation_group_type_index"], ["payloads"]]

/-- Decode payloads. -/
def Targeting.decodePayloads? : Json → Option (Dict Json) :=
  Json.asDict? fun j => some j.canonical

/-- Decode the targeting of a flag. -/
def Targeting.decode? (j : Json) : Option Targeting := do
  let [groups, variants, groupTypeIndex, payloads] ← j.fields? fieldNames | none
  let groups ← Json.withDefault? [] (Json.asList? ConditionGroup.decode?) groups
  let variants ← Json.optional? decodeVariants? variants
  let groupTypeIndex ← Json.optional? Json.asInt32? groupTypeIndex
  let payloads ← Json.optional? decodePayloads? payloads
  pure { groups, variants, groupTypeIndex, payloads }

/-- Encode the targeting of a flag. -/
def Targeting.encode (t : Targeting) : Json :=
  .object [
    ("groups", .array (t.groups.map ConditionGroup.encode)),
    ("multivariate", .ofOption encodeVariants t.variants),
    ("aggregation_group_type_index", .ofOption .int t.groupTypeIndex),
    ("payloads", .ofOption .ofDict t.payloads)]

/-! ### Flags -/

/-- The fields of a flag. -/
def Flag.fieldNames : List (List String) := [
  ["id"], ["name"], ["key"], ["filters"], ["deleted"], ["active"],
  ["ensure_experience_continuity"], ["version"]]

/-- Decode a flag. -/
def Flag.decode? (j : Json) : Option Flag := do
  let [id, name, key, targeting, isDeleted, isActive, keepsExperience, version] ←
    j.fields? fieldNames | none
  let id ← Json.required? Json.asInt32? id
  let name ← Json.optional? Json.asString? name
  let key ← Json.required? Json.asString? key
  let targeting ← Json.withDefault? .nobody Targeting.decode? targeting
  let isDeleted ← Json.withDefault? false Json.asBool? isDeleted
  let isActive ← Json.withDefault? false Json.asBool? isActive
  let keepsExperience ← Json.withDefault? false Json.asBool? keepsExperience
  let version ← Json.optional? Json.asInt32? version
  pure { id, name, key, targeting, isDeleted, isActive, keepsExperience, version }

/-- Encode a flag. -/
def Flag.encode (f : Flag) : Json :=
  .object [
    ("id", .int f.id),
    ("name", .ofOption .string f.name),
    ("key", .string f.key),
    ("filters", f.targeting.encode),
    ("deleted", .bool f.isDeleted),
    ("active", .bool f.isActive),
    ("ensure_experience_continuity", .bool f.keepsExperience),
    ("version", .ofOption .int f.version)]

end FeatureFlags
