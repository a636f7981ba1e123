import FeatureFlags.Context
import FeatureFlags.Evaluation.Evaluator
import FeatureFlags.Flag.Coding

/-!
# Definitions

A set of definitions holds the flags and cohorts of a project and the names of its group types.
Definitions are replaced as a whole and never changed, so an evaluation sees one set from start to
end. A flag for groups is evaluated for the group of its type: draws go by the key of the group,
and conditions look at the properties of the group.
-/

namespace FeatureFlags

open Calendar (Instant)

/-! ### The document that definitions are made of -/

/-- Definitions as they are sent: flags as a list, in which keys may repeat. -/
structure DefinitionsDocument where
  flags : List Flag
  groupTypes : Dict String
  cohorts : Dict Cohort
  deriving DecidableEq, Repr

/-- The fields of the document. -/
def DefinitionsDocument.fieldNames : List (List String) := [
  ["flags"], ["group_type_mapping"], ["cohorts"]]

/-- Decode the document. -/
def DefinitionsDocument.decode? (j : Json) : Option DefinitionsDocument := do
  let [flags, groupTypes, cohorts] ← j.fields? fieldNames | none
  let flags ← Json.withDefault? [] (Json.asList? Flag.decode?) flags
  let groupTypes ← Json.withDefault? ∅ (Json.asDict? Json.asString?) groupTypes
  let cohorts ← Json.withDefault? ∅ (Json.asDict? Cohort.decode?) cohorts
  pure { flags, groupTypes, cohorts }

/-- Encode the document. -/
def DefinitionsDocument.encode (d : DefinitionsDocument) : Json :=
  .object [
    ("flags", .array (d.flags.map Flag.encode)),
    ("group_type_mapping", .ofDict (d.groupTypes.map .string)),
    ("cohorts", .ofDict (d.cohorts.map Cohort.encode))]

/-! ### Definitions -/

/-- A set of definitions. -/
structure Definitions where
  flags : Dict Flag
  cohorts : Dict Cohort
  /-- The names of the group types by their index, written out. -/
  groupTypes : Dict String
  deriving DecidableEq, Repr

namespace Definitions

/-- The definitions of a document; of several flags under one key the last counts. -/
def ofDocument (d : DefinitionsDocument) : Definitions where
  flags := .ofList (d.flags.map fun f => (f.key, f))
  cohorts := d.cohorts
  groupTypes := d.groupTypes

/-- The flags and cohorts that conditions may refer to. -/
def rules (d : Definitions) : Rules := ⟨d.flags, d.cohorts⟩

/-- Whom a flag is evaluated for: the person, or the group of its type. There may be no such
group, or no such type. -/
def identityFor (d : Definitions) (now : Instant) (f : Flag) (distinctId : String)
    (context : Context) : Except Undecided (Option Identity) :=
  match f.targeting.groupTypeIndex with
  | none => .ok (some ⟨distinctId, context.personProperties.getD ∅, now⟩)
  | some index =>
    match d.groupTypes.get? (toString index) with
    | none => .error (.unknownGroupType index)
    | some type =>
      .ok <| (context.groups.getD ∅).get? type |>.map fun key =>
        ⟨key, ((context.groupProperties.getD ∅).get? type).getD ∅, now⟩

/-- Evaluate a flag with nothing known about others, and what is known about them afterwards. -/
def evaluateWithMemo (d : Definitions) (now : Instant) (f : Flag) (distinctId : String)
    (context : Context) : Except Undecided FlagMatch × Memo :=
  if !f.isActive || f.isDeleted then (.ok (.off .disabled none), ∅)
  else
    match d.identityFor now f distinctId context with
    | .error e => (.error e, ∅)
    | .ok none => (.ok (.off .noGroupType none), ∅)
    | .ok (some who) => d.rules.evaluate who f ∅

/-- Evaluate a flag. -/
def evaluate (d : Definitions) (now : Instant) (f : Flag) (distinctId : String)
    (context : Context) : Except Undecided FlagMatch :=
  (d.evaluateWithMemo now f distinctId context).1

end Definitions

end FeatureFlags
