import FeatureFlags.Remote.Exchange
import FeatureFlags.Remote.Failure
import FeatureFlags.Definitions

/-!
# A scripted endpoint

An endpoint for rehearsals: its answers and their delays are set beforehand, and it counts the
calls that are made.
-/

namespace FeatureFlags

/-- An endpoint with set answers. -/
structure ScriptedEndpoint where
  /-- The definitions it sends; without any, it answers with status 500. -/
  definitions : Option DefinitionsDocument := none
  definitionsDelay : Nat := 0
  flags : ResolvedFlags := ∅
  flagsDelay : Nat := 0
  /-- The failures that come before any further answer with flags, oldest first. -/
  failures : List Failure := []
  hasErrors : Bool := false
  definitionsCalls : Nat := 0
  flagsCalls : Nat := 0
  lastRequest : Option FlagsRequest := none

namespace ScriptedEndpoint

/-- Count a call for definitions. -/
def countDefinitions (e : ScriptedEndpoint) : ScriptedEndpoint :=
  { e with definitionsCalls := e.definitionsCalls + 1 }

/-- Count and remember a request for flags. -/
def countFlags (e : ScriptedEndpoint) (r : FlagsRequest) : ScriptedEndpoint :=
  { e with flagsCalls := e.flagsCalls + 1, lastRequest := some r }

/-- The answer to a call for definitions. -/
def answerDefinitions (e : ScriptedEndpoint) : Except Failure DefinitionsDocument :=
  match e.definitions with
  | some d => .ok d
  | none => .error (.status 500)

/-- The answer to the request of a number. A failure is used up. -/
def answerFlags (e : ScriptedEndpoint) (number : Nat) :
    Except Failure FlagsResponse × ScriptedEndpoint :=
  match e.failures with
  | failure :: rest => (.error failure, { e with failures := rest })
  | [] =>
    (.ok {
      flags := e.flags
      requestId := some s!"request-{number}"
      hasErrors := e.hasErrors
      quotaLimited := none }, e)

end ScriptedEndpoint

end FeatureFlags
