import FeatureFlags.Evaluation.Match
import FeatureFlags.Json.Decoding

/-!
# Resolved flags

The outcome of a flag as it is handed to callers, whether it was evaluated locally or by the remote
endpoint.
-/

namespace FeatureFlags

/-- Why a flag has its value, as far as it was said. -/
structure ResolvedReason where
  code : Option String
  description : Option String
  groupIndex : Option Nat
  deriving DecidableEq, Repr

/-- The outcome of a flag. -/
structure ResolvedFlag where
  key : String
  enabled : Bool
  variant : Option String
  id : Int
  version : Int
  payload : Option Json
  reason : Option ResolvedReason
  deriving DecidableEq, Repr

namespace ResolvedFlag

/-- The value that callers see. -/
def value (r : ResolvedFlag) : FlagValue :=
  match r.variant with
  | some variant => if variant.isEmpty then .boolean r.enabled else .variant variant
  | none => .boolean r.enabled

/-- The outcome of a match. -/
def ofMatch (f : Flag) (m : FlagMatch) : ResolvedFlag where
  key := f.key
  enabled := m.isMatch
  variant := m.variant
  id := f.id
  version := f.version.getD 0
  payload := m.payload
  reason := some ⟨some m.reason.code, some m.description, m.groupIndex⟩

/-! ### Resolved flags as JSON -/

/-- Decode a reason; two of its fields have an older name as well. -/
def decodeReason? (j : Json) : Option ResolvedReason := do
  let [code, description, groupIndex] ←
    j.fields? [["code", "kind"], ["description", "condition_match_type"], ["condition_index"]]
    | none
  let code ← Json.optional? Json.asString? code
  let description ← Json.optional? Json.asString? description
  let groupIndex ← Json.optional? Json.asNat64? groupIndex
  pure { code, description, groupIndex }

/-- Encode a reason. -/
def encodeReason (r : ResolvedReason) : Json :=
  .object [
    ("code", .ofOption .string r.code),
    ("description", .ofOption .string r.description),
    ("condition_index", .ofOption .nat r.groupIndex)]

/-- The id, the version and the payload of a flag, as they are given together. -/
def decodeMetadata? (j : Json) : Option (Int × Int × Option Json) := do
  let [id, version, payload] ← j.fields? [["id"], ["version"], ["payload"]] | none
  let id ← Json.withDefault? 0 Json.asInt32? id
  let version ← Json.withDefault? 0 Json.asInt32? version
  let payload ← Json.optional? (fun j => some j.canonical) payload
  pure (id, version, payload)

/-- Encode the id, the version and the payload. -/
def encodeMetadata (r : ResolvedFlag) : Json :=
  .object [
    ("id", .int r.id), ("version", .int r.version), ("payload", .ofOption (fun j => j) r.payload)]

/-- Decode a resolved flag. -/
def decode? (j : Json) : Option ResolvedFlag := do
  let [key, enabled, variant, metadata, reason] ←
    j.fields? [["key"], ["enabled"], ["variant"], ["metadata"], ["reason"]] | none
  let key ← Json.required? Json.asString? key
  let enabled ← Json.required? Json.asBool? enabled
  let variant ← Json.optional? Json.asString? variant
  let (id, version, payload) ← Json.withDefault? (0, 0, none) decodeMetadata? metadata
  let reason ← Json.optional? decodeReason? reason
  pure { key, enabled, variant, id, version, payload, reason }

/-- Encode a resolved flag. -/
def encode (r : ResolvedFlag) : Json :=
  .object [
    ("key", .string r.key),
    ("enabled", .bool r.enabled),
    ("variant", .ofOption .string r.variant),
    ("metadata", r.encodeMetadata),
    ("reason", .ofOption encodeReason r.reason)]

end ResolvedFlag

/-- Flags by key. -/
abbrev ResolvedFlags := Dict ResolvedFlag

namespace ResolvedFlags

/-- Decode flags by key. -/
def decode? (j : Json) : Option ResolvedFlags := j.asDict? ResolvedFlag.decode?

/-- Encode flags by key. -/
def encode (flags : ResolvedFlags) : Json := .ofDict (flags.map ResolvedFlag.encode)

end ResolvedFlags

end FeatureFlags
