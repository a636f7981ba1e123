import FeatureFlags.Json.Decoding

/-!
# Contexts

What is known about an identity besides its distinct id: the groups it belongs to, and the
properties of the person and of the groups. Each of the three may be absent, which is not the same
as empty.
-/

namespace FeatureFlags

/-- What is known about an identity. -/
structure Context where
  /-- The keys of the groups, by group type. -/
  groups : Option (Dict String) := none
  personProperties : Option (Dict Json) := none
  /-- The properties of the groups, by group type. -/
  groupProperties : Option (Dict (Dict Json)) := none
  deriving DecidableEq, Repr

namespace Context

/-- Nothing is known. -/
def nothing : Context := {}

/-- Add a property of the person. -/
def withPersonProperty (c : Context) (name : String) (value : Json) : Context :=
  { c with personProperties := some ((c.personProperties.getD ∅).insert name value) }

/-- Add a group. -/
def withGroup (c : Context) (type key : String) : Context :=
  { c with groups := some ((c.groups.getD ∅).insert type key) }

/-- Add a property of a group. -/
def withGroupProperty (c : Context) (type name : String) (value : Json) : Context :=
  let all := c.groupProperties.getD ∅
  let properties := (all.get? type).getD ∅
  { c with groupProperties := some (all.insert type (properties.insert name value)) }

/-- The properties of groups as JSON. -/
def encodeGroupProperties (all : Dict (Dict Json)) : Json := .ofDict (all.map .ofDict)

/-- The parts that are there, as members of an object. -/
def members (c : Context) : List (String × Json) :=
  (c.groups.map fun g => ("groups", .ofDict (g.map .string))).toList
    ++ (c.personProperties.map fun p => ("person_properties", .ofDict p)).toList
    ++ (c.groupProperties.map fun g => ("group_properties", encodeGroupProperties g)).toList

end Context

end FeatureFlags
