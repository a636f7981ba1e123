import FeatureFlags.Json.Basic

/-!
# Decoding records from JSON

A decoder turns a JSON value into a value of a type, or refuses it. A record is given as an object
whose unknown members are ignored, or as an array of its fields in declared order, of which
trailing ones may be left out. A declared field that an object repeats is refused.
-/

namespace FeatureFlags.Json

variable {α β : Type}

/-! ### Plain values -/

/-- A string. -/
def asString? : Json → Option String
  | .string s => some s
  | _ => none

/-- A truth value. -/
def asBool? : Json → Option Bool
  | .bool b => some b
  | _ => none

/-- An integer between two bounds. -/
def asIntWithin? (low high : Int) : Json → Option Int
  | .number (.int n) => if low ≤ n ∧ n ≤ high then some n else none
  | _ => none

/-- An integer of 32 bits. -/
def asInt32? : Json → Option Int := asIntWithin? (-(Nat.pow 2 31)) (Nat.pow 2 31 - 1)

/-- A natural number below a bound. -/
def asNatBelow? (bound : Nat) (j : Json) : Option Nat :=
  (asIntWithin? 0 (bound - 1) j).map Int.toNat

/-- A natural number of 64 bits. -/
def asNat64? : Json → Option Nat := asNatBelow? (Nat.pow 2 64)

/-- Any number, as a binary64 number. -/
def asFloat? : Json → Option Float
  | .number (.int n) => some (Float.ofInt n)
  | .number (.float x) => some x
  | _ => none

/-- A value that may be missing: `null` is the missing one. -/
def asOption? (decode : Json → Option α) : Json → Option (Option α)
  | .null => some none
  | j => (decode j).map some

/-- A list. -/
def asList? (decode : Json → Option α) : Json → Option (List α)
  | .array items => items.mapM decode
  | _ => none

/-- A dictionary; of several members of one name the last counts, but all have to decode. -/
def asDict? (decode : Json → Option α) : Json → Option (Dict α)
  | .object members =>
    (members.mapM fun m => (decode m.2).map fun a => (m.1, a)).map Dict.ofList
  | _ => none

/-! ### Fields of records -/

/-- The members of this name, or of another name for the same field. -/
def membersNamed (names : List String) (members : List (String × Json)) : List Json :=
  (members.filter fun m => names.contains m.1).map Prod.snd

/-- One field of an object: absent, or there once. -/
def field? (members : List (String × Json)) (names : List String) : Option (Option Json) :=
  match membersNamed names members with
  | [] => some none
  | [j] => some (some j)
  | _ => none

/-- The fields of a record in declared order, each with all its names. -/
def fields? (declared : List (List String)) : Json → Option (List (Option Json))
  | .object members => declared.mapM (field? members)
  | .array items =>
    if items.length ≤ declared.length then
      some (items.map some ++ List.replicate (declared.length - items.length) none)
    else none
  | _ => none

/-- A field that has to be there. -/
def required? (decode : Json → Option α) : Option Json → Option α
  | some j => decode j
  | none => none

/-- A field that takes a default when it is absent. -/
def withDefault? (default : α) (decode : Json → Option α) : Option Json → Option α
  | some j => decode j
  | none => some default

/-- A field that may be absent or `null`. -/
def optional? (decode : Json → Option α) : Option Json → Option (Option α) :=
  withDefault? none (asOption? decode)

end FeatureFlags.Json
