import FeatureFlags.Condition.Basic
import FeatureFlags.Junction

/-!
# Cohorts

A cohort is a tree: a node joins further nodes, or it joins conditions. When a list is read, its
first item tells which of the two it holds.
-/

namespace FeatureFlags

/-- A tree of conditions. -/
inductive Cohort where
  | nodes (j : Junction) (children : List Cohort)
  | leaves (j : Junction) (conditions : List Condition)
  deriving Repr

namespace Cohort

instance : Inhabited Cohort := ⟨.leaves .any []⟩

/-- Has the root no children? -/
def isEmpty : Cohort → Bool
  | .nodes _ children => children.isEmpty
  | .leaves _ conditions => conditions.isEmpty

/-! ### Decidable equality -/

mutual

/-- Decide whether two trees are equal. -/
def decEq : (a b : Cohort) → Decidable (a = b)
  | .nodes j as, .nodes k bs =>
    if h : j = k then
      match decEqList as bs with
      | isTrue hs => isTrue (by rw [h, hs])
      | isFalse hs => isFalse fun e => hs (Cohort.nodes.inj e).2
    else isFalse fun e => h (Cohort.nodes.inj e).1
  | .leaves j as, .leaves k bs =>
    if h : j = k ∧ as = bs then isTrue (by rw [h.1, h.2])
    else isFalse fun e => h (Cohort.leaves.inj e)
  | .nodes _ _, .leaves _ _ | .leaves _ _, .nodes _ _ => isFalse (by intro h; cases h)

/-- Decide whether two lists of trees are equal. -/
def decEqList : (as bs : List Cohort) → Decidable (as = bs)
  | [], [] => isTrue rfl
  | [], _ :: _ | _ :: _, [] => isFalse (by intro h; cases h)
  | a :: as, b :: bs =>
    match decEq a b, decEqList as bs with
    | isTrue h, isTrue hs => isTrue (by rw [h, hs])
    | isFalse h, _ => isFalse fun e => h (List.cons.inj e).1
    | _, isFalse hs => isFalse fun e => hs (List.cons.inj e).2

end

instance : DecidableEq Cohort := decEq

/-! ### Cohorts as JSON -/

/-- The name of a junction. -/
def junctionName : Junction → String
  | .all => "AND"
  | .any => "OR"

/-- The junction of a name. -/
def junctionNamed? (name : String) : Option Junction :=
  if name = "AND" then some .all else if name = "OR" then some .any else none

/-- A junction is given by its name, or by an object that holds nothing under its name. -/
def decodeJunction? : Json → Option Junction
  | .string name => junctionNamed? name
  | .object [(name, .null)] => junctionNamed? name
  | _ => none

/-- Does a value have the shape of a node, and not of a condition? -/
def isNodeShaped (j : Json) : Bool :=
  (j.member? "key").isNone && (j.member? "type").isSome && (j.member? "values").isSome

/-- The fields of a node, each with its names. -/
def fieldNames : List (List String) := [["type"], ["values"]]

/-- The junction and the items of a node; items are taken in canonical form. -/
def decodeNode? (j : Json) : Option (Junction × List Json) := do
  let [junction, values] ← j.fields? fieldNames | none
  let junction ← Json.withDefault? .any decodeJunction? junction
  let items ← Json.withDefault? [] (Json.asList? fun j => some j.canonical) values
  pure (junction, items)

/-- Decode a cohort whose nodes nest at most so deep. -/
def decodeWithin? : Nat → Json → Option Cohort
  | 0, _ => none
  | depth + 1, j => do
    let (junction, items) ← decodeNode? j
    if items.head?.any isNodeShaped then
      let children ← items.mapM (decodeWithin? depth)
      pure (.nodes junction children)
    else
      let conditions ← items.mapM Condition.decode?
      pure (.leaves junction conditions)

/-- Decode a cohort. -/
def decode? (j : Json) : Option Cohort := decodeWithin? (j.depth + 1) j

mutual

/-- Encode a cohort. -/
def encode : Cohort → Json
  | .nodes j children => .object [
    ("type", .string (junctionName j)), ("values", .array (encodeList children))]
  | .leaves j conditions => .object [
    ("type", .string (junctionName j)), ("values", .array (conditions.map Condition.encode))]

/-- Encode a list of cohorts. -/
def encodeList : List Cohort → List Json
  | [] => []
  | c :: rest => c.encode :: encodeList rest

end

end Cohort

end FeatureFlags
