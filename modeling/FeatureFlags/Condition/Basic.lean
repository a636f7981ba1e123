import FeatureFlags.Condition.Literal
import FeatureFlags.Condition.Operator
import FeatureFlags.Json.Decoding

/-!
# Conditions

A condition is a leaf of a condition tree. It looks at a property of a person or group, at a
cohort, or at another flag. A condition on a flag carries the flags that have to be settled first,
in order.
-/

namespace FeatureFlags

/-- What a condition looks at. -/
inductive Subject where
  | person
  | cohort
  | flag
  deriving DecidableEq, Repr

/-- The name of a subject. -/
def Subject.name : Subject → String
  | .person => "person"
  | .cohort => "cohort"
  | .flag => "flag"

/-- The subject of a name; all other names are matched like persons. -/
def Subject.ofName (s : String) : Subject :=
  if s = "cohort" then .cohort else if s = "flag" then .flag else .person

@[simp] theorem Subject.ofName_name (s : Subject) : Subject.ofName s.name = s := by
  cases s <;> decide

/-- A leaf of a condition tree. -/
structure Condition where
  key : String
  literal : Option Literal
  givenOperator : Option Operator
  subject : Subject
  negation : Option Bool
  /-- The flags to settle before a flag condition can be checked; empty if they form a cycle. -/
  dependencyChain : Option (List String)
  groupTypeIndex : Option Int
  deriving DecidableEq, Repr

namespace Condition

/-- The operator of a condition; equality if none is given. -/
def operator (c : Condition) : Operator := c.givenOperator.getD .exact

/-- Is the outcome of the condition turned around? -/
def isNegated (c : Condition) : Bool := c.negation.getD false

/-- The cohort that a condition on one looks at. -/
def cohortId (c : Condition) : String := (c.literal.map Literal.display).getD ""

/-! ### Conditions as JSON -/

/-- An operator is given by any string. -/
def decodeOperator (j : Json) : Option Operator := j.asString?.map Operator.ofName

/-- A subject is given by any string, or by nothing. -/
def decodeSubject (j : Json) : Option Subject :=
  (j.asOption? Json.asString?).map fun s => s.elim .person Subject.ofName

/-- The fields of a condition, each with its names. -/
def fieldNames : List (List String) := [
  ["key"], ["value"], ["operator"], ["type"], ["negation"], ["dependency_chain"],
  ["group_type_index"]]

/-- Decode a condition. -/
def decode? (j : Json) : Option Condition := do
  let [key, literal, operator, subject, negation, chain, index] ← j.fields? fieldNames | none
  let key ← Json.required? Json.asString? key
  let literal ← Json.optional? (fun j => some (.ofJson j.canonical)) literal
  let givenOperator ← Json.optional? decodeOperator operator
  let subject ← Json.withDefault? .person decodeSubject subject
  let negation ← Json.optional? Json.asBool? negation
  let dependencyChain ← Json.optional? (Json.asList? Json.asString?) chain
  let groupTypeIndex ← Json.optional? Json.asInt32? index
  pure { key, literal, givenOperator, subject, negation, dependencyChain, groupTypeIndex }

/-- Encode a condition. -/
def encode (c : Condition) : Json :=
  .object ([
    ("key", .string c.key),
    ("value", .ofOption Literal.toJson c.literal),
    ("operator", .ofOption (fun o => .string o.name) c.givenOperator),
    ("type", .string c.subject.name),
    ("negation", .ofOption .bool c.negation),
    ("dependency_chain", .ofOption (fun keys => .array (keys.map .string)) c.dependencyChain)]
    ++ (c.groupTypeIndex.map fun i => ("group_type_index", .int i)).toList)

end Condition

end FeatureFlags
