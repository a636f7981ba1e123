import FeatureFlags.Json.Basic

/-!
# Values of flags

A flag is off, on, or shows one of its variants. A variant without a name counts as off.
-/

namespace FeatureFlags

/-- The value of a flag for one identity. -/
inductive FlagValue where
  | boolean (enabled : Bool)
  | variant (name : String)
  deriving DecidableEq, Repr

namespace FlagValue

/-- Is the flag on? -/
def isTruthy : FlagValue → Bool
  | .boolean enabled => enabled
  | .variant name => !name.isEmpty

/-- The variant that is shown, if it has a name. -/
def variant? : FlagValue → Option String
  | .variant name => if name.isEmpty then none else some name
  | .boolean _ => none

/-- The value in words; payloads are filed under it. -/
def text : FlagValue → String
  | .boolean true => "true"
  | .boolean false => "false"
  | .variant name => name

/-- Decode a value. -/
def decode? : Json → Option FlagValue
  | .bool b => some (.boolean b)
  | .string s => some (.variant s)
  | _ => none

/-- Encode a value. -/
def encode : FlagValue → Json
  | .boolean b => .bool b
  | .variant s => .string s

@[simp] theorem decode?_encode (v : FlagValue) : decode? v.encode = some v := by
  cases v <;> rfl

end FlagValue

end FeatureFlags
