import FeatureFlags.CommandLine.Session
import FeatureFlags.Http.Connection
import Std.Time.DateTime.Timestamp

/-!
# The program

Evaluates flags for one identity over a plain connection, with the variables of the environment
and the clock of the machine.
-/

namespace FeatureFlags

open Calendar (Instant)

/-- The present, as the clock of the machine shows it. -/
def readPresent : IO Instant := do
  let time ← Std.Time.Timestamp.now
  let nanos := time.toNanosecondsSinceUnixEpoch.val
  return ⟨nanos / 1000000000, (nanos % 1000000000).toNat⟩

/-- The milliseconds from the start of 1970 up to an instant. -/
def Calendar.Instant.millis (t : Instant) : Nat :=
  (t.seconds * 1000).toNat + t.nanos / 1000000

/-- The settings that the environment holds. -/
def readSettings : IO (Dict String) :=
  Config.settingNames.foldlM (fun given name => do
    match ← IO.getEnv name with
    | some value => return given.insert name value
    | none => return given) ∅

end FeatureFlags

open FeatureFlags in
/-- Run a session, and leave its exit code. -/
def main (arguments : List String) : IO UInt32 := do
  let present ← readPresent
  let settings ← readSettings
  let output ← CommandLine.run Connection.deliver present present.millis settings arguments
  IO.eprint output.complaint
  IO.print output.text
  return output.exitCode.toUInt32
